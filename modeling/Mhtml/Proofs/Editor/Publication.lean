import Mathlib.Data.Option.Basic
import Mhtml.Editor.Wire
import Mhtml.Proofs.Editor.Turns

/-!
# What the editor has been told

An editor sees the messages that the server sends. For each document it goes by
the last report of diagnostics. `Dialogue.Synced` says that this report is the one
of the stored text, or that there is none to go by; every message keeps it so,
whatever arrives and in whatever order.
-/

namespace Mhtml

/-- The parameters of a message that reports the diagnostics of a document. -/
def reported? (uri : String) (message : Json) : Option Json := do
  let method ← (message.member? "method").bind Json.str?
  let params ← message.member? "params"
  let about ← (params.member? "uri").bind Json.str?
  if method = "textDocument/publishDiagnostics" ∧ about = uri then some params else none

/-- The last report about a document among some messages. -/
def lastReport? (uri : String) (messages : List Json) : Option Json :=
  messages.reverse.findSome? (reported? uri)

/-- The report of a version of a document. -/
def reportOf (uri : String) (diagnostics : List Diagnostic) (version : Int) : Json :=
  .obj [("uri", .str uri), ("diagnostics", .arr (diagnostics.map Diagnostic.toNoticeJson)),
    ("version", .int version)]

/-- The report that a document has no diagnostics any more. -/
def emptyReport (uri : String) : Json :=
  .obj [("uri", .str uri), ("diagnostics", .arr [])]

/-- A server and what it has sent so far. -/
structure Dialogue where
  /-- The state of the server. -/
  session : Session
  /-- The messages sent, in order. -/
  sent : List Json := []

namespace Dialogue

section Running

variable [Uri.Reader]

/-- What arrives is handled to its end. -/
def step (d : Dialogue) (i : Incoming) : Dialogue :=
  let turn := d.session.take i
  ⟨turn.session, d.sent ++ turn.messages i⟩

/-- What arrives is handled one after the other. -/
def run (d : Dialogue) (arrivals : List Incoming) : Dialogue :=
  arrivals.foldl step d

end Running

/-- The last report about each document is that of its stored text. About a document that is not
stored there is no report, or the last one is empty. -/
def Synced (d : Dialogue) : Prop :=
  ∀ uri, match d.session.documents.get? uri with
    | some stored => lastReport? uri d.sent =
        some (reportOf uri (validate d.session.limit stored.text).diagnostics stored.version)
    | none => lastReport? uri d.sent = none ∨ lastReport? uri d.sent = some (emptyReport uri)

end Dialogue

theorem lastReport?_append (uri : String) (before after : List Json) :
    lastReport? uri (before ++ after) = (lastReport? uri after).or (lastReport? uri before) := by
  rw [lastReport?, List.reverse_append, List.findSome?_append]
  rfl

theorem lastReport?_of_none {uri : String} {messages : List Json}
    (none : ∀ m ∈ messages, reported? uri m = Option.none) :
    lastReport? uri messages = Option.none := by
  rw [lastReport?, List.findSome?_eq_none_iff]
  intro m found
  exact none m (List.mem_reverse.1 found)

/-- An answer reports nothing: it names no method. -/
theorem reported?_answer (uri : String) {id message : Json} {answer : Answer}
    (due : answer.toJson? id = some message) : reported? uri message = none := by
  cases answer with
  | result outcome =>
    cases due
    rfl
  | refusal reason =>
    cases due
    rfl
  | silence => cases due
  | gone => cases due

theorem reported?_log (uri message : String) : reported? uri (Notice.log message).toJson = none := rfl

theorem reported?_publish (uri about : String) (diagnostics : List Diagnostic)
    (version? : Option Int) :
    reported? uri (Notice.publish about diagnostics version?).toJson =
      if about = uri then some (Notice.publish about diagnostics version?).params else none := by
  have method : (Notice.publish about diagnostics version?).toJson.member? "method" =
      some (.str "textDocument/publishDiagnostics") := rfl
  have params : (Notice.publish about diagnostics version?).toJson.member? "params" =
      some (Notice.publish about diagnostics version?).params := rfl
  have named : (Notice.publish about diagnostics version?).params.member? "uri" =
      some (.str about) := rfl
  by_cases same : about = uri
  · subst same
    simp [reported?, method, params, named, Json.str?]
  · simp [reported?, method, params, named, Json.str?, same]

/-- The last report in a turn: of the notices only publications count. -/
theorem lastReport?_messages (uri : String) (t : Turn) (i : Incoming) :
    lastReport? uri (t.messages i) = lastReport? uri (t.sent.map Notice.toJson) := by
  rw [Turn.messages, lastReport?_append]
  have answer : lastReport? uri (i.id?.bind fun id => t.answer.toJson? id).toList = none := by
    apply lastReport?_of_none
    intro m found
    obtain ⟨id, -, due⟩ := Option.bind_eq_some_iff.1 (Option.mem_toList.1 found)
    exact reported?_answer uri due
  rw [answer, Option.or_none]

theorem lastReport?_of_no_publication {uri : String} {sent : List Notice}
    (quiet : ∀ n ∈ sent, n.isPublication = false) :
    lastReport? uri (sent.map Notice.toJson) = none := by
  apply lastReport?_of_none
  intro m found
  obtain ⟨n, among, rfl⟩ := List.mem_map.1 found
  cases n with
  | publish => exact absurd (quiet _ among) (by simp [Notice.isPublication])
  | log message => exact reported?_log uri message

theorem lastReport?_publish (uri about : String) (diagnostics : List Diagnostic)
    (version? : Option Int) :
    lastReport? uri ([Notice.publish about diagnostics version?].map Notice.toJson) =
      if about = uri then some (Notice.publish about diagnostics version?).params else none := by
  rw [List.map_singleton, lastReport?, List.reverse_singleton, List.findSome?_singleton,
    reported?_publish]

namespace Dialogue

/-- Before anything arrives nothing is stored and nothing has been sent. -/
theorem synced_start (limit : Nat) : Synced { session := { limit } } := by
  intro uri
  have none : (∅ : Store).get? uri = Option.none := by simp
  dsimp only
  rw [none]
  exact Or.inl rfl

end Dialogue

/-- The methods that ask about a document. -/
def queryMethods : List String :=
  ["textDocument/hover", "textDocument/completion", "textDocument/documentSymbol"]

/-- The method that asks for an action. -/
def Action.method : Action → Method
  | ready => .ready
  | openText .. => .didOpen
  | changeText .. => .didChange
  | closeText _ => .didClose
  | hover .. => .hover
  | completion .. => .completion
  | outline _ => .documentSymbol

/-- Whether an action only asks. -/
def Action.isQuery : Action → Bool
  | hover .. | completion .. | outline _ => true
  | _ => false

theorem Session.act_of_isQuery {s : Session} {action : Action} (asks : action.isQuery = true) :
    (s.act action).session = s ∧ (s.act action).sent = [] := by
  cases action <;> first | exact ⟨rfl, rfl⟩ | cases asks

section Running

variable [Uri.Reader]

namespace Dialogue

/-- A step keeps the editor's view in line with the stored documents. -/
theorem Synced.step {d : Dialogue} (synced : d.Synced) (i : Incoming) : (d.step i).Synced := by
  intro uri
  have view : lastReport? uri (d.step i).sent =
      (lastReport? uri ((d.session.take i).sent.map Notice.toJson)).or (lastReport? uri d.sent) := by
    rw [Dialogue.step, lastReport?_append, lastReport?_messages]
  have before := synced uri
  change match (d.session.take i).session.documents.get? uri with
    | some stored => lastReport? uri (d.step i).sent = some (reportOf uri
        (validate (d.session.take i).session.limit stored.text).diagnostics stored.version)
    | none => lastReport? uri (d.step i).sent = none ∨
        lastReport? uri (d.step i).sent = some (emptyReport uri)
  rw [view]
  cases d.session.effect_take i with
  | none limit documents sent =>
    rw [documents, limit, lastReport?_of_no_publication sent, Option.none_or]
    exact before
  | stored about new _ limit documents sent =>
    rw [documents, limit, sent, lastReport?_publish, Store.get?_insert]
    by_cases same : about = uri
    · subst same
      rw [if_pos rfl, if_pos rfl]
      rfl
    · rw [if_neg same, if_neg same, Option.none_or]
      exact before
  | closed about limit documents sent =>
    rw [documents, limit, sent, lastReport?_publish, Store.get?_erase]
    by_cases same : about = uri
    · subst same
      rw [if_pos rfl, if_pos rfl]
      exact Or.inr rfl
    · rw [if_neg same, if_neg same, Option.none_or]
      exact before

theorem Synced.run {d : Dialogue} (synced : d.Synced) (arrivals : List Incoming) :
    (d.run arrivals).Synced := by
  induction arrivals generalizing d with
  | nil => exact synced
  | cons i arrivals ih => exact ih (synced.step i)

theorem limit_run (d : Dialogue) (arrivals : List Incoming) :
    (d.run arrivals).session.limit = d.session.limit := by
  induction arrivals generalizing d with
  | nil => rfl
  | cons i arrivals ih =>
    have kept : (d.step i).session.limit = d.session.limit := by
      cases d.session.effect_take i with
      | none limit => exact limit
      | stored _ _ _ limit => exact limit
      | closed _ limit => exact limit
    exact (ih (d.step i)).trans kept

end Dialogue

theorem Action.decode?_eq_some_iff {method : Method} {params? : Option Json} {action : Action} :
    decode? method params? = some action ↔ ∃ params layout, params? = some params ∧
      method.parameters? = some layout ∧ layout.shape params = true ∧
      ofParameters? layout params method = some action := by
  simp only [decode?, Option.bind_eq_bind, Option.bind_eq_some_iff, Option.guard_eq_some',
    exists_const, exists_and_left]

theorem Action.method_of_ofParameters? {layout : Layout} {params : Json} {method : Method}
    {action : Action} (read : ofParameters? layout params method = some action) :
    method = action.method := by
  cases method with
  | ready =>
    cases read
    rfl
  | didOpen | didChange | hover | completion =>
    simp only [ofParameters?, Option.bind_eq_bind, Option.bind_eq_some_iff] at read
    grind [Action.method]
  | didClose | documentSymbol =>
    obtain ⟨uri, -, same⟩ := Option.map_eq_some_iff.1 read
    cases same
    rfl
  | setup | shutdown | exit | cancel | unheeded | declined | unknown => cases read

theorem Action.method_of_decode? {method : Method} {params? : Option Json} {action : Action}
    (read : decode? method params? = some action) : method = action.method := by
  obtain ⟨params, layout, -, -, -, read⟩ := decode?_eq_some_iff.1 read
  exact method_of_ofParameters? read

theorem Action.isQuery_of_decode? {method : Method} {params? : Option Json} {action : Action}
    (asks : method = .hover ∨ method = .completion ∨ method = .documentSymbol)
    (read : decode? method params? = some action) : action.isQuery = true := by
  rw [method_of_decode? read] at asks
  cases action <;> first | rfl | simp [Action.method] at asks

namespace Session

variable {s : Session}

theorem receiveAction_query {method : Method}
    (asks : method = .hover ∨ method = .completion ∨ method = .documentSymbol) (m : Message) :
    (s.receiveAction method m).session = s ∧ (s.receiveAction method m).sent = [] := by
  unfold receiveAction
  split
  · exact ⟨rfl, rfl⟩
  · split
    · exact ⟨rfl, rfl⟩
    · split
      next action read => exact act_of_isQuery (Action.isQuery_of_decode? asks read)
      next => exact ⟨rfl, rfl⟩

/-- A question changes nothing and makes the server say nothing unasked. -/
theorem receive_query (s : Session) {m : Message} (query : m.method ∈ queryMethods) :
    (s.receive m).session = s ∧ (s.receive m).sent = [] := by
  unfold receive
  split
  · exact ⟨rfl, rfl⟩
  · simp only [queryMethods, List.mem_cons, List.not_mem_nil, or_false] at query
    rcases query with named | named | named
    · rw [named]
      exact receiveAction_query (.inl rfl) m
    · rw [named]
      exact receiveAction_query (.inr (.inl rfl)) m
    · rw [named]
      exact receiveAction_query (.inr (.inr rfl)) m

end Session

/-- **The editor's view follows the store.** Whatever arrives, in whatever order, the last report about
a stored document is that of its text and version, and a document that is not stored has none or an
empty one. Questions about a document change nothing and publish nothing. -/
theorem report_follows_store (limit : Nat) (arrivals : List Incoming) :
    let d := Dialogue.run { session := { limit } } arrivals
    (∀ uri, match d.session.documents.get? uri with
      | some stored => lastReport? uri d.sent =
          some (reportOf uri (validate limit stored.text).diagnostics stored.version)
      | none => lastReport? uri d.sent = none ∨ lastReport? uri d.sent = some (emptyReport uri)) ∧
    ∀ m : Message, m.method ∈ queryMethods →
      (d.session.receive m).session = d.session ∧ (d.session.receive m).sent = [] := by
  intro d
  have synced := (Dialogue.synced_start limit).run arrivals
  have kept : d.session.limit = limit := Dialogue.limit_run _ arrivals
  refine ⟨?_, fun m query => d.session.receive_query query⟩
  rw [← kept]
  exact synced

end Running

end Mhtml

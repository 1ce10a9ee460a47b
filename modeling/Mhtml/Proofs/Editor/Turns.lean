import Mhtml.Editor.Session

/-!
# What a turn can do

A turn leaves the documents as they are and publishes nothing, or stores one text
and publishes its diagnostics, or forgets one text and withdraws them.
`Session.effect_take` says so for whatever arrives at whatever stage; what holds
along a session is proved from these three cases alone. `Session.receive_cases`
tells which messages are acted on; all others do nothing to the documents.
-/

namespace Mhtml

namespace Store

theorem get?_insert (store : Store) (uri other : String) (new : StoredText) :
    (store.insert uri new).get? other = if uri = other then some new else store.get? other := by
  rw [Std.TreeMap.get?_eq_getElem?, Std.TreeMap.getElem?_insert]
  simp [Std.TreeMap.get?_eq_getElem?]

theorem get?_erase (store : Store) (uri other : String) :
    (store.erase uri).get? other = if uri = other then none else store.get? other := by
  rw [Std.TreeMap.get?_eq_getElem?, Std.TreeMap.getElem?_erase]
  simp [Std.TreeMap.get?_eq_getElem?]

end Store

/-- Whether a notice publishes diagnostics. -/
def Notice.isPublication : Notice → Bool
  | publish .. => true
  | log _ => false

/-- What a turn from `s` does to the documents, and what it publishes. -/
inductive Turn.Effect (s : Session) (t : Turn) : Prop where
  /-- Nothing. -/
  | none (limit : t.session.limit = s.limit) (documents : t.session.documents = s.documents)
      (sent : ∀ n ∈ t.sent, n.isPublication = false)
  /-- A text is stored and its diagnostics are published. -/
  | stored (uri : String) (new : StoredText) (accepted : s.documents.Accepts uri new.version)
      (limit : t.session.limit = s.limit) (documents : t.session.documents = s.documents.insert uri new)
      (sent : t.sent = [.publish uri (validate s.limit new.text).diagnostics (some new.version)])
  /-- A text is forgotten, if it is there, and its diagnostics are withdrawn. -/
  | closed (uri : String) (limit : t.session.limit = s.limit)
      (documents : t.session.documents = s.documents.erase uri)
      (sent : t.sent = [.publish uri [] Option.none])

/-- A turn from `s` that leaves the documents as they are and publishes nothing. -/
structure Turn.Quiet (s : Session) (t : Turn) : Prop where
  limit : t.session.limit = s.limit
  documents : t.session.documents = s.documents
  sent : ∀ n ∈ t.sent, n.isPublication = false

theorem Turn.Quiet.effect {s : Session} {t : Turn} (quiet : t.Quiet s) : t.Effect s :=
  .none quiet.limit quiet.documents quiet.sent

namespace Session

variable {s : Session}

theorem send_of_running (running : s.stage = .running) (notice : Notice) :
    s.send notice = [notice] := by
  rw [send, running]

/-- A turn that keeps the session and says nothing unasked. -/
theorem quiet_of_eq {t : Turn} (same : t.session = s) (silent : t.sent = []) : t.Quiet s :=
  ⟨by rw [same], by rw [same], by rw [silent]; simp⟩

/-- A turn that changes nothing but the stage. -/
theorem quiet_of_stage {t : Turn} {stage : Stage} (same : t.session = { s with stage })
    (silent : t.sent = []) : t.Quiet s :=
  ⟨by rw [same], by rw [same], by rw [silent]; simp⟩

theorem quiet_refuse (m : Message) (reason : Refusal) : (s.refuse m reason).Quiet s :=
  quiet_of_eq rfl rfl

/-- A batch is dropped just if its document is closed, or if a newer text of it is stored. -/
theorem report_eq (running : s.stage = .running) (uri : String) (batch : Batch) :
    s.report uri batch =
      if ∀ current ∈ s.documents.get? uri, batch.Stale current.version then []
      else [.publish uri batch.diagnostics (some batch.version)] := by
  rw [report]
  cases s.documents.get? uri with
  | none => rfl
  | some current => simp [send_of_running running]

/-- The diagnostics of what is stored are not dropped: a text is not newer than itself. -/
theorem publish_of_get? (running : s.stage = .running) {uri : String} {stored : StoredText}
    (found : s.documents.get? uri = some stored) :
    s.publish uri =
      [.publish uri (validate s.limit stored.text).diagnostics (some stored.version)] := by
  have current : ¬ ∀ t ∈ s.documents.get? uri, (stored.batch uri s.limit).Stale t.version :=
    fun stale => stored.not_stale_batch uri s.limit (stale stored found)
  rw [publish, found]
  dsimp only
  rw [report_eq running, if_neg current, stored.batch_eq_collect uri s.limit]
  rfl

/-- A write that is accepted is stored, and its diagnostics are published. -/
theorem store_of_accepts (running : s.stage = .running) {uri : String} (new : StoredText)
    (accepted : s.documents.Accepts uri new.version) :
    s.store uri new =
      { session := { s with documents := s.documents.insert uri new },
        sent := [.publish uri (validate s.limit new.text).diagnostics (some new.version)] } := by
  have found : (s.documents.insert uri new).get? uri = some new := by
    rw [Store.get?_insert, if_pos rfl]
  have sent := publish_of_get? (s := { s with documents := s.documents.insert uri new }) running found
  rw [store, Store.write?, if_pos accepted]
  dsimp only
  rw [sent]

theorem store_of_not_accepts {uri : String} (new : StoredText)
    (refused : ¬ s.documents.Accepts uri new.version) : s.store uri new = { session := s } := by
  rw [store, Store.write?, if_neg refused]

/-- A write is stored and published, or refused. -/
theorem effect_store (running : s.stage = .running) (uri : String) (new : StoredText) :
    (s.store uri new).Effect s := by
  by_cases accepted : s.documents.Accepts uri new.version
  · rw [store_of_accepts running new accepted]
    exact .stored uri new accepted rfl rfl rfl
  · rw [store_of_not_accepts new accepted]
    exact Turn.Quiet.effect (quiet_of_eq rfl rfl)

/-- The word that the editor is ready is only logged. -/
theorem quiet_ready (running : s.stage = .running) : (s.act .ready).Quiet s := by
  refine ⟨rfl, rfl, ?_⟩
  rw [act, send_of_running running]
  intro n sent
  cases List.mem_singleton.1 sent
  rfl

theorem effect_act (running : s.stage = .running) (action : Action) : (s.act action).Effect s := by
  cases action with
  | ready => exact (quiet_ready running).effect
  | openText uri version text => exact effect_store running uri _
  | changeText uri version texts =>
    rw [act]
    cases texts.getLast? with
    | none => exact Turn.Quiet.effect (quiet_of_eq rfl rfl)
    | some text => exact effect_store running uri _
  | closeText uri =>
    refine .closed uri rfl rfl ?_
    rw [act, withdraw]
    exact send_of_running running _
  | hover uri p => exact Turn.Quiet.effect (quiet_of_eq rfl rfl)
  | completion uri p => exact Turn.Quiet.effect (quiet_of_eq rfl rfl)
  | outline uri => exact Turn.Quiet.effect (quiet_of_eq rfl rfl)

theorem quiet_receiveShutdown (m : Message) : (s.receiveShutdown m).Quiet s := by
  unfold receiveShutdown
  split
  · exact quiet_refuse m _
  · dsimp only
    split
    · exact quiet_of_stage rfl rfl
    · split
      · exact quiet_of_stage rfl rfl
      · exact quiet_of_stage rfl rfl

theorem quiet_receiveUnheeded (m : Message) : (s.receiveUnheeded m).Quiet s := by
  unfold receiveUnheeded
  split
  · exact quiet_refuse m _
  · exact quiet_refuse m _

theorem quiet_receiveUnknown (m : Message) : (s.receiveUnknown m).Quiet s := by
  unfold receiveUnknown
  split
  · exact quiet_of_eq rfl rfl
  · exact quiet_refuse m _

theorem quiet_breakOff (reason : Refusal) : (s.breakOff reason).Quiet s := by
  unfold breakOff
  split
  · exact quiet_of_eq rfl rfl
  · exact quiet_of_stage rfl rfl

section Receiving

variable [Uri.Reader]

theorem quiet_receiveSetup (m : Message) : (s.receiveSetup m).Quiet s := by
  unfold receiveSetup
  split
  · exact quiet_refuse m _
  · split
    · exact quiet_of_eq rfl rfl
    · split
      · exact quiet_of_stage rfl rfl
      · exact quiet_refuse m _

theorem quiet_receiveDeclined (m : Message) : (s.receiveDeclined m).Quiet s := by
  unfold receiveDeclined
  split
  · exact quiet_refuse m _
  · split
    · exact quiet_refuse m _
    · exact quiet_refuse m _

/-- A method without parameters to act on changes no document. -/
theorem quiet_receive {m : Message} (inert : (Method.ofName m.method).parameters? = none) :
    (s.receive m).Quiet s := by
  unfold receive
  split
  · exact quiet_of_eq rfl rfl
  · cases named : Method.ofName m.method with
    | exit => exact quiet_of_stage rfl rfl
    | setup => exact quiet_receiveSetup m
    | shutdown => exact quiet_receiveShutdown m
    | cancel => exact quiet_refuse m _
    | unheeded => exact quiet_receiveUnheeded m
    | declined => exact quiet_receiveDeclined m
    | unknown => exact quiet_receiveUnknown m
    | ready | didOpen | didChange | didClose | hover | completion | documentSymbol =>
      rw [named] at inert
      cases inert

/-- The other methods are acted on. -/
theorem receive_of_parameters? {m : Message} {layout : Layout}
    (known : (Method.ofName m.method).parameters? = some layout) (alive : s.stage ≠ .exited) :
    s.receive m = s.receiveAction (Method.ofName m.method) m := by
  rw [receive, if_neg alive]
  cases named : Method.ofName m.method with
  | exit | setup | shutdown | cancel | unheeded | declined | unknown =>
    rw [named] at known
    cases known
  | _ => rfl

/-- A message is acted on, or it changes no document and nothing is published. -/
theorem receive_cases (s : Session) (m : Message) :
    (s.receive m).Quiet s ∨
    s.stage = .running ∧ (Method.ofName m.method).isNotification ≠ m.isRequest ∧
      ∃ action, Action.decode? (Method.ofName m.method) m.params? = some action ∧
        s.receive m = s.act action := by
  cases known : (Method.ofName m.method).parameters? with
  | none => exact Or.inl (quiet_receive known)
  | some layout =>
    by_cases running : s.stage = .running
    · have alive : s.stage ≠ .exited := by
        rw [running]
        decide
      rw [receive_of_parameters? known alive, receiveAction, if_neg (not_not_intro running)]
      split
      next => exact Or.inl (quiet_refuse m _)
      next kind =>
        cases read : Action.decode? (Method.ofName m.method) m.params? with
        | none => exact Or.inl (quiet_refuse m _)
        | some action => exact Or.inr ⟨running, kind, action, rfl, rfl⟩
    · refine Or.inl ?_
      by_cases alive : s.stage = .exited
      · rw [receive, if_pos alive]
        exact quiet_of_eq rfl rfl
      · rw [receive_of_parameters? known alive, receiveAction, if_pos running]
        exact quiet_refuse m _

/-- Whatever arrives, at whatever stage. -/
theorem effect_take (s : Session) (i : Incoming) : (s.take i).Effect s := by
  cases i with
  | message m =>
    rcases s.receive_cases m with quiet | ⟨running, -, action, -, acts⟩
    · exact quiet.effect
    · show (s.receive m).Effect s
      rw [acts]
      exact effect_act running action
  | invalid => exact (quiet_breakOff _).effect
  | garbled => exact (quiet_breakOff _).effect

end Receiving

end Session

end Mhtml

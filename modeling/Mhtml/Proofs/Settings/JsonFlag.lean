import Mhtml.Settings.CommandLine

/-!
# The flag for JSON reports

Nothing in the reading of a command line looks at whether the flag `--json` has come,
the flag itself apart, which may come once. So a command line that is accepted without
the flag is accepted with it, too, and asks for the same otherwise: `parse_json_cons`.
-/

namespace Mhtml

/-- Two things done one after the other give something just if both do. -/
theorem bind_eq_ok_iff {ε α β : Type} {x : Except ε α} {f : α → Except ε β} {b : β} :
    x >>= f = .ok b ↔ ∃ a, x = .ok a ∧ f a = .ok b := by
  constructor
  · intro done
    cases x with
    | error e => cases done
    | ok a => exact ⟨a, rfl, done⟩
  · rintro ⟨a, rfl, done⟩
    exact done

namespace CommandLine.Reading

/-- The reading, with the flag come or not. -/
def withJson (r : Reading) (json : Bool) : Reading :=
  { r with json }

/-- What is done to a reading has nothing to do with the flag. -/
def IgnoresJson (act : Reading → Except CommandError Reading) : Prop :=
  ∀ r json, act (r.withJson json) = (act r).map (·.withJson json)

variable {act : Reading → Except CommandError Reading} {r after : Reading} {tool : Tool}

theorem IgnoresJson.json_eq (ignores : IgnoresJson act) (done : act r = .ok after) :
    after.json = r.json := by
  have same := ignores r r.json
  have self : r.withJson r.json = r := rfl
  rw [self, done, Except.map] at same
  have own : after.json = (after.withJson r.json).json := congrArg Reading.json (Except.ok.inj same)
  exact own

theorem IgnoresJson.withJson_eq (ignores : IgnoresJson act) (done : act r = .ok after) (json : Bool) :
    act (r.withJson json) = .ok (after.withJson json) := by
  rw [ignores r json, done]
  rfl

/-- Two things done one after the other. -/
theorem IgnoresJson.bind {next : Reading → Except CommandError Reading} (first : IgnoresJson act)
    (second : IgnoresJson next) : IgnoresJson fun r => act r >>= next := by
  intro r json
  dsimp only
  rw [first r json]
  cases act r with
  | error e => rfl
  | ok r => exact second r json

/-- Giving an option its value. -/
theorem ignoresJson_setOption (option : ValueOption) (value : String) :
    IgnoresJson fun r => return { r with options := ← setOption r.options option value } := by
  intro r json
  show (setOption r.options option value >>= _) = Except.map _ (setOption r.options option value >>= _)
  cases setOption r.options option value <;> rfl

theorem ignoresJson_settle : IgnoresJson settle := by
  intro r json
  obtain ⟨options, own, paths, pending?, ended⟩ := r
  match pending? with
  | none => rfl
  | some (.option option none) => rfl
  | some (.option option (some value)) =>
    simp only [settle, withJson]
    cases setOption options option value <;> rfl
  | some (.paths taken) =>
    simp only [settle, withJson]
    cases taken.any String.isEmpty <;> rfl

theorem ignoresJson_takeOption (option : ValueOption) :
    (value? : Option String) → IgnoresJson (takeOption · option value?)
  | none => ignoresJson_settle.bind fun _ _ => rfl
  | some value => ignoresJson_settle.bind (ignoresJson_setOption option value)

theorem ignoresJson_takePath (tool : Tool) (word : String) : IgnoresJson (takePath · tool word) := by
  have settled : IgnoresJson fun r => do
      let r ← r.settle
      return { r with pending? := some (.paths [word]) } := ignoresJson_settle.bind fun _ _ => rfl
  intro r json
  simp only [takePath]
  cases tool.takesPaths with
  | false => rfl
  | true =>
    obtain ⟨options, own, paths, pending?, ended⟩ := r
    match pending? with
    | some (.paths taken) => rfl
    | none => exact settled _ json
    | some (.option option value?) => exact settled _ json

theorem ignoresJson_takePlain (tool : Tool) (word : String) : IgnoresJson (takePlain · tool word) := by
  intro r json
  have other := ignoresJson_takePath tool word r json
  obtain ⟨options, own, paths, pending?, ended⟩ := r
  match pending? with
  | some (.option option none) => rfl
  | none => exact other
  | some (.option option (some value)) => exact other
  | some (.paths taken) => exact other

/-- After a flag that does not end the reading, the flag for JSON has come. -/
theorem json_of_takeFlag {flag : Flag} (done : r.takeFlag flag = .ok after) : after.json = true := by
  obtain ⟨r', -, done⟩ := bind_eq_ok_iff.1 done
  cases flag with
  | help | version => cases done
  | json =>
    dsimp only at done
    split at done
    · cases done
    · cases done
      rfl

/-- A word after which the flag has not come does the same where the flag came before. -/
theorem step_withJson {word : String} (taken : step tool r word = .ok after)
    (without : after.json = false) :
    r.json = false ∧ step tool (r.withJson true) word = .ok (after.withJson true) := by
  have ignored : ∀ {act : Reading → Except CommandError Reading}, IgnoresJson act →
      act r = .ok after → r.json = false ∧ act (r.withJson true) = .ok (after.withJson true) := by
    intro act ignores done
    exact ⟨ignores.json_eq done ▸ without, ignores.withJson_eq done true⟩
  have flagged : ∀ {flag : Flag}, r.takeFlag flag ≠ .ok after := by
    intro flag done
    rw [json_of_takeFlag done] at without
    cases without
  have ended : (r.withJson true).ended = r.ended := rfl
  -- Whatever a word does ignores the flag, unless the word is a flag, and then it has come.
  unfold step at taken ⊢
  rw [ended]
  split at taken
  next past =>
    rw [if_pos past]
    exact ignored (ignoresJson_takePath tool word) taken
  next before =>
    rw [if_neg before]
    generalize Word.ofString word = look at taken ⊢
    cases look with
    | separator =>
      have ends : IgnoresJson fun r => return { r with ended := true } := fun _ _ => rfl
      exact ignored ends taken
    | plain word => exact ignored (ignoresJson_takePlain tool word) taken
    | short letter rest =>
      dsimp only at taken
      split at taken
      · exact absurd taken flagged
      · cases taken
    | long name value? =>
      dsimp only at taken ⊢
      split at taken
      next option _ => exact ignored (ignoresJson_takeOption option value?) taken
      next =>
        split at taken
        · cases taken
        · exact absurd taken flagged
      next => cases taken

/-- A command line after which the flag has not come does the same where the flag came before. -/
theorem foldlM_step_withJson {words : List String} (taken : words.foldlM (step tool) r = .ok after)
    (without : after.json = false) :
    r.json = false ∧ words.foldlM (step tool) (r.withJson true) = .ok (after.withJson true) := by
  induction words generalizing r with
  | nil =>
    cases taken
    exact ⟨without, rfl⟩
  | cons word words ih =>
    rw [List.foldlM_cons] at taken ⊢
    obtain ⟨next, first, later⟩ := bind_eq_ok_iff.1 taken
    obtain ⟨between, later⟩ := ih later
    obtain ⟨before, first⟩ := step_withJson first between
    exact ⟨before, bind_eq_ok_iff.2 ⟨_, first, later⟩⟩

end CommandLine.Reading

open CommandLine

/-- A command line that is accepted without the flag is accepted after it, too, and asks for the
same in JSON. -/
theorem Command.parse_json_cons {words : List String} {options : Options} {paths : List String}
    (accepted : Command.parse .checker words = .ok ⟨options, false, paths⟩) :
    Command.parse .checker ("--json" :: words) = .ok ⟨options, true, paths⟩ := by
  have first : Reading.step .checker {} "--json" = .ok (Reading.withJson {} true) := rfl
  obtain ⟨r, taken, rest⟩ := bind_eq_ok_iff.1 accepted
  obtain ⟨r', settled, asked⟩ := bind_eq_ok_iff.1 rest
  split at asked
  · cases asked
  next some =>
    obtain ⟨rfl, without, rfl⟩ := Command.mk.inj (Except.ok.inj asked)
    have before := Reading.ignoresJson_settle.json_eq settled
    rw [without] at before
    obtain ⟨-, taken⟩ := Reading.foldlM_step_withJson taken before.symm
    have settled := Reading.ignoresJson_settle.withJson_eq settled true
    refine bind_eq_ok_iff.2 ⟨r.withJson true, ?_, bind_eq_ok_iff.2 ⟨r'.withJson true, settled, ?_⟩⟩
    · rw [List.foldlM_cons, first]
      exact taken
    · exact if_neg some

end Mhtml

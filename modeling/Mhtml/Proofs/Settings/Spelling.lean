import Mhtml.Proofs.Text.Slices
import Mhtml.Proofs.Settings.JsonFlag

/-!
# Command lines that spell a command

`Command.words` spells a command: each option has its value behind an equals sign, and
the paths come behind a separator. `Command.parse_words` says that these words are read
as the command, if no path is empty and the depth is a number of 64 bits. Every command
that any command line asks for is such a one, since each word keeps what has been read
so: `Command.parse_words_of_parse`.
-/

namespace Mhtml

namespace CommandLine

/-- A digit stands for its number. -/
theorem digitValue?_of_isDigit {c : Char} (digit : c.isDigit = true) :
    digitValue? c = some (c.toNat - '0'.toNat) := by
  rw [Char.isDigit, Bool.and_eq_true, decide_eq_true_eq, decide_eq_true_eq] at digit
  exact if_pos digit

theorem mapM_digitValue? {cs : List Char} (digits : ∀ c ∈ cs, c.isDigit = true) :
    cs.mapM digitValue? = some (cs.map fun c => c.toNat - '0'.toNat) := by
  induction cs with
  | nil => rfl
  | cons c cs ih =>
    obtain ⟨first, rest⟩ := List.forall_mem_cons.1 digits
    rw [List.mapM_cons, digitValue?_of_isDigit first, ih rest]
    rfl

theorem isDigit_of_mem_toDigits {n : Nat} : ∀ c ∈ Nat.toDigits 10 n, c.isDigit = true :=
  fun _ => Nat.isDigit_of_mem_toDigits (by decide) (by decide)

theorem numberOfDigits?_toDigits (n : Nat) : numberOfDigits? 10 (Nat.toDigits 10 n) = some n := by
  have below : ((Nat.toDigits 10 n).map fun c => c.toNat - '0'.toNat).all (· < 10) = true := by
    rw [List.all_map, List.all_eq_true]
    intro c among
    have digit := isDigit_of_mem_toDigits c among
    rw [Char.isDigit, Bool.and_eq_true, decide_eq_true_eq, decide_eq_true_eq] at digit
    have last : c.toNat ≤ 57 := digit.2
    refine decide_eq_true (?_ : c.toNat - 48 < 10)
    omega
  rw [numberOfDigits?, mapM_digitValue? isDigit_of_mem_toDigits, Option.bind_eq_bind, Option.bind_some,
    if_pos below, List.foldl_map]
  exact congrArg some Nat.ofDigitChars_ten_toDigits

/-- A number is read as it is written. -/
theorem number?_toString {n : Nat} (small : n ≤ maxNumber) : number? (toString n) = some n := by
  have written : (toString n).toList = Nat.toDigits 10 n := Nat.toList_repr
  have unsigned : ∀ digits, Nat.toDigits 10 n ≠ '+' :: digits := by
    intro digits same
    have digit := isDigit_of_mem_toDigits (n := n) '+' (by rw [same]; exact List.mem_cons_self)
    exact absurd digit (by decide)
  have some : (Nat.toDigits 10 n).isEmpty = false := by simp
  have small' : n < maxNumber + 1 := by omega
  unfold number?
  rw [written]
  split
  next digits same => exact absurd same (unsigned digits)
  next =>
    dsimp only
    rw [some, if_neg (by decide), numberBelow?_eq (by decide) (by decide),
      numberOfDigits?_toDigits, Option.filter_some, if_pos (decide_eq_true small')]

end CommandLine

/-- The word that gives an option its value. -/
def optionWord (name value : String) : String :=
  "--" ++ name ++ "=" ++ value

/-- The words for some options. -/
def Options.words (o : Options) : List String :=
  (o.config?.map (optionWord "config")).toList ++
    ((o.maxDepth?.map fun n => optionWord "max-nesting-depth" (toString n)).toList ++
      (o.logLevel?.map (optionWord "log-level")).toList)

/-- Options that can be given: no path is empty, and the depth is a number of 64 bits. -/
structure Options.IsSound (o : Options) : Prop where
  config : ∀ path ∈ o.config?, path ≠ ""
  depth : ∀ n ∈ o.maxDepth?, n ≤ CommandLine.maxNumber

namespace Command

/-- The words for a command of the checker. -/
def words (c : Command) : List String :=
  c.options.words ++ ((if c.json then ["--json"] else []) ++ "--" :: c.paths)

/-- A command that can be asked for: there are paths, and none is empty. -/
structure IsSound (c : Command) : Prop where
  options : c.options.IsSound
  some : c.paths ≠ []
  paths : ∀ path ∈ c.paths, path ≠ ""

open CommandLine

theorem ofString_long {name : String} (plain : '=' ∉ name.toList) (value : String) :
    Word.ofString (optionWord name value) = .long name (some value) := by
  have letters : (optionWord name value).toList =
      '-' :: '-' :: (name.toList ++ '=' :: value.toList) := by
    simp [optionWord]
  have front : ∀ c ∈ name.toList, (c != '=') = true := by
    intro c among
    rw [bne_iff_ne]
    rintro rfl
    exact plain among
  have cut : (name.toList ++ '=' :: value.toList).span (· != '=') =
      (name.toList, '=' :: value.toList) := by
    refine span_append front ?_
    rintro c ⟨⟩
    rfl
  unfold Word.ofString
  rw [letters]
  split
  next same => simp at same
  next rest _ same =>
    cases same
    simp only [cut, String.ofList_toList]
  next other same => exact (other (List.cons.inj (List.cons.inj same).2).1.symm).elim
  next other => exact absurd rfl (other _ _)

/-- An option is set to the value behind its equals sign. -/
theorem step_optionWord {o o' : Options} {option : ValueOption} {name value : String}
    (known : longOption? .checker name = some (.inl option)) (plain : '=' ∉ name.toList)
    (set : setOption o option value = .ok o') :
    Reading.step .checker { options := o } (optionWord name value) = .ok { options := o' } := by
  rw [Reading.step, if_neg Bool.false_ne_true, ofString_long plain]
  dsimp only
  rw [known]
  show (setOption o option value >>= _) = _
  rw [set]
  rfl

theorem setOption_config {o : Options} {path : String} (unset : o.config? = none) (full : path ≠ "") :
    setOption o .config path = .ok { o with config? := path } := by
  simp only [setOption, isSet, unset, String.isEmpty_iff, full]
  rfl

theorem setOption_maxDepth {o : Options} {n : Nat} (unset : o.maxDepth? = none)
    (small : n ≤ maxNumber) : setOption o .maxDepth (toString n) = .ok { o with maxDepth? := n } := by
  simp only [setOption, isSet, unset, number?_toString small]
  rfl

theorem setOption_logLevel {o : Options} (unset : o.logLevel? = none) (level : String) :
    setOption o .logLevel level = .ok { o with logLevel? := level } := by
  simp only [setOption, isSet, unset]
  rfl

/-- The words for options set them. -/
theorem foldlM_step_optionWords {c : Command} (sound : c.IsSound) :
    c.options.words.foldlM (Reading.step .checker) {} = .ok { options := c.options } := by
  obtain ⟨⟨config?, maxDepth?, logLevel?⟩, json, paths⟩ := c
  have first : (config?.map (optionWord "config")).toList.foldlM (Reading.step .checker) {} =
      .ok { options := { config? } } := by
    cases config? with
    | none => rfl
    | some path =>
      have set := setOption_config (o := {}) rfl (sound.options.config path rfl)
      exact bind_eq_ok_iff.2 ⟨_, step_optionWord rfl (by decide) set, rfl⟩
  have second : (maxDepth?.map fun n => optionWord "max-nesting-depth" (toString n)).toList.foldlM
      (Reading.step .checker) { options := { config? } } = .ok { options := { config?, maxDepth? } } := by
    cases maxDepth? with
    | none => rfl
    | some n =>
      have set := setOption_maxDepth (o := { config? }) rfl (sound.options.depth n rfl)
      exact bind_eq_ok_iff.2 ⟨_, step_optionWord rfl (by decide) set, rfl⟩
  have third : (logLevel?.map (optionWord "log-level")).toList.foldlM (Reading.step .checker)
      { options := { config?, maxDepth? } } = .ok { options := { config?, maxDepth?, logLevel? } } := by
    cases logLevel? with
    | none => rfl
    | some level =>
      have set := setOption_logLevel (o := { config?, maxDepth? }) rfl level
      exact bind_eq_ok_iff.2 ⟨_, step_optionWord rfl (by decide) set, rfl⟩
  simp only [Options.words, List.foldlM_append]
  exact bind_eq_ok_iff.2 ⟨_, first, bind_eq_ok_iff.2 ⟨_, second, third⟩⟩

/-- After the separator every word is a path. -/
theorem foldlM_step_paths {r : Reading} {taken : List String} (ended : r.ended = true)
    (pending : r.pending? = some (.paths taken)) (paths : List String) :
    paths.foldlM (Reading.step .checker) r =
      .ok { r with pending? := some (.paths (paths.reverse ++ taken)) } := by
  induction paths generalizing r taken with
  | nil =>
    cases r
    cases pending
    rfl
  | cons path paths ih =>
    have step : Reading.step .checker r path =
        .ok { r with pending? := some (.paths (path :: taken)) } := by
      rw [Reading.step, if_pos ended, Reading.takePath, pending]
      rfl
    have later := ih (r := { r with pending? := some (.paths (path :: taken)) }) ended rfl
    rw [List.foldlM_cons, List.reverse_cons, List.append_assoc, List.singleton_append]
    exact bind_eq_ok_iff.2 ⟨_, step, later⟩

/-- **What can be asked for is asked for by its words.** -/
theorem parse_words {c : Command} (sound : c.IsSound) : parse .checker c.words = .ok c := by
  have options := foldlM_step_optionWords sound
  have flag : (if c.json then ["--json"] else []).foldlM (Reading.step .checker)
      { options := c.options } = .ok { options := c.options, json := c.json } := by
    cases c.json <;> rfl
  have separator : Reading.step .checker { options := c.options, json := c.json } "--" =
      .ok { options := c.options, json := c.json, ended := true } := rfl
  obtain ⟨path, paths, same⟩ := List.exists_cons_of_ne_nil sound.some
  have first : Reading.step .checker { options := c.options, json := c.json, ended := true } path =
      .ok { options := c.options, json := c.json, ended := true, pending? := some (.paths [path]) } :=
    rfl
  have others := @foldlM_step_paths
    { options := c.options, json := c.json, ended := true, pending? := some (.paths [path]) } [path]
    rfl rfl paths
  have whole : (paths.reverse ++ [path]).reverse = c.paths := by
    rw [List.reverse_append, List.reverse_reverse, List.reverse_singleton, List.singleton_append, same]
  have full : (paths.reverse ++ [path]).any String.isEmpty = false := by
    rw [List.any_eq_false]
    intro p among
    rw [← List.mem_reverse, whole] at among
    simpa using sound.paths p among
  have read : c.words.foldlM (Reading.step .checker) {} = .ok
      { options := c.options, json := c.json, ended := true
        pending? := some (.paths (paths.reverse ++ [path])) } := by
    rw [words, List.foldlM_append]
    refine bind_eq_ok_iff.2 ⟨_, options, ?_⟩
    rw [List.foldlM_append]
    refine bind_eq_ok_iff.2 ⟨_, flag, ?_⟩
    rw [same, List.foldlM_cons]
    refine bind_eq_ok_iff.2 ⟨_, separator, ?_⟩
    rw [List.foldlM_cons]
    exact bind_eq_ok_iff.2 ⟨_, first, others⟩
  have settled : Reading.settle { options := c.options, json := c.json, ended := true
                                  pending? := some (.paths (paths.reverse ++ [path])) } = .ok
      { options := c.options, json := c.json, paths := c.paths, ended := true } := by
    simp only [Reading.settle, full, whole]
    rfl
  have given : ¬ (Tool.checker.takesPaths && c.paths.isEmpty) = true := by
    rw [same]
    exact Bool.false_ne_true
  exact bind_eq_ok_iff.2 ⟨_, read, bind_eq_ok_iff.2 ⟨_, settled, if_neg given⟩⟩

end Command

/-! ## Nothing else is asked for -/

namespace CommandLine

theorem le_of_number? {value : String} {n : Nat} (read : number? value = some n) : n ≤ maxNumber := by
  have below : ∀ digits, (if digits.isEmpty then none else numberBelow? (maxNumber + 1) 10 digits) =
      some n → n ≤ maxNumber := by
    intro digits read
    split at read
    · cases read
    · rw [numberBelow?_eq (by decide) (by decide), Option.filter_eq_some_iff] at read
      exact Nat.le_of_lt_succ (of_decide_eq_true read.2)
  unfold number? at read
  split at read
  · exact below _ read
  · exact below _ read

/-- Setting an option keeps options sound. -/
theorem isSound_of_setOption {o o' : Options} {option : ValueOption} {value : String}
    (sound : o.IsSound) (set : setOption o option value = .ok o') : o'.IsSound := by
  unfold setOption at set
  split at set
  · cases set
  · cases option with
    | config =>
      dsimp only at set
      split at set
      next => cases set
      next full =>
        cases set
        refine ⟨?_, sound.depth⟩
        rintro _ ⟨⟩
        simpa using full
    | maxDepth =>
      dsimp only at set
      split at set
      next n read =>
        cases set
        refine ⟨sound.config, ?_⟩
        rintro _ ⟨⟩
        exact le_of_number? read
      next => cases set
    | logLevel =>
      cases set
      exact ⟨sound.config, sound.depth⟩

namespace Reading

/-- What has been settled can be asked for. -/
structure IsSound (r : Reading) : Prop where
  options : r.options.IsSound
  paths : ∀ path ∈ r.paths, path ≠ ""

variable {r after : Reading} {tool : Tool}

theorem isSound_of_settle (sound : r.IsSound) (done : r.settle = .ok after) : after.IsSound := by
  unfold settle at done
  split at done
  next =>
    cases done
    exact sound
  next option value? _ =>
    cases value? with
    | none => cases done
    | some value =>
      obtain ⟨options, set, done⟩ := bind_eq_ok_iff.1 done
      cases done
      exact ⟨isSound_of_setOption sound.options set, sound.paths⟩
  next paths _ =>
    split at done
    next => cases done
    next full =>
      cases done
      refine ⟨sound.options, List.forall_mem_append.2 ⟨sound.paths, ?_⟩⟩
      intro path among empty
      refine full (List.any_eq_true.2 ⟨path, List.mem_reverse.1 among, ?_⟩)
      rw [empty]
      rfl

theorem isSound_of_takeOption {option : ValueOption} {value? : Option String} (sound : r.IsSound)
    (done : r.takeOption option value? = .ok after) : after.IsSound := by
  obtain ⟨r', settled, done⟩ := bind_eq_ok_iff.1 done
  have sound := isSound_of_settle sound settled
  cases value? with
  | none =>
    cases done
    exact ⟨sound.options, sound.paths⟩
  | some value =>
    obtain ⟨options, set, done⟩ := bind_eq_ok_iff.1 done
    cases done
    exact ⟨isSound_of_setOption sound.options set, sound.paths⟩

theorem isSound_of_takeFlag {flag : Flag} (sound : r.IsSound) (done : r.takeFlag flag = .ok after) :
    after.IsSound := by
  obtain ⟨r', settled, done⟩ := bind_eq_ok_iff.1 done
  have sound := isSound_of_settle sound settled
  cases flag with
  | help => cases done
  | version => cases done
  | json =>
    dsimp only at done
    split at done
    · cases done
    · cases done
      exact ⟨sound.options, sound.paths⟩

theorem isSound_of_takePath {word : String} (sound : r.IsSound)
    (done : r.takePath tool word = .ok after) : after.IsSound := by
  unfold takePath at done
  dsimp only at done
  split at done
  next =>
    split at done
    next =>
      cases done
      exact ⟨sound.options, sound.paths⟩
    next =>
      obtain ⟨r', settled, done⟩ := bind_eq_ok_iff.1 done
      cases done
      have sound := isSound_of_settle sound settled
      exact ⟨sound.options, sound.paths⟩
  next => cases done

/-- Each word keeps what is settled sound. -/
theorem isSound_of_step {word : String} (sound : r.IsSound) (done : step tool r word = .ok after) :
    after.IsSound := by
  unfold step at done
  split at done
  next => exact isSound_of_takePath sound done
  next =>
    cases look : Word.ofString word with
    | separator =>
      rw [look] at done
      cases done
      exact ⟨sound.options, sound.paths⟩
    | long name value? =>
      rw [look] at done
      dsimp only at done
      split at done
      next => exact isSound_of_takeOption sound done
      next =>
        split at done
        · cases done
        · exact isSound_of_takeFlag sound done
      next => cases done
    | short letter rest =>
      rw [look] at done
      dsimp only at done
      split at done
      next => exact isSound_of_takeFlag sound done
      next => cases done
    | plain word =>
      rw [look] at done
      dsimp only [takePlain] at done
      split at done
      next =>
        cases done
        exact ⟨sound.options, sound.paths⟩
      next => exact isSound_of_takePath sound done

theorem isSound_of_foldlM {words : List String} (sound : r.IsSound)
    (done : words.foldlM (step tool) r = .ok after) : after.IsSound := by
  induction words generalizing r with
  | nil =>
    cases done
    exact ⟨sound.options, sound.paths⟩
  | cons word words ih =>
    obtain ⟨next, first, later⟩ := bind_eq_ok_iff.1 done
    exact ih (isSound_of_step sound first) later

end Reading

end CommandLine

namespace Command

theorem isSound_of_parse {words : List String} {c : Command} (read : parse .checker words = .ok c) :
    c.IsSound := by
  obtain ⟨r, taken, read⟩ := bind_eq_ok_iff.1 read
  obtain ⟨r', settled, read⟩ := bind_eq_ok_iff.1 read
  have start : CommandLine.Reading.IsSound {} := ⟨⟨by simp, by simp⟩, by simp⟩
  have sound := CommandLine.Reading.isSound_of_settle
    (CommandLine.Reading.isSound_of_foldlM start taken) settled
  split at read
  next => cases read
  next some =>
    cases read
    refine ⟨sound.options, fun none => some ?_, sound.paths⟩
    have none : r'.paths = [] := none
    rw [none]
    rfl

/-- **Each command that a command line asks for is asked for by its own words**, and so is the same
command in the other mode. -/
theorem parse_words_of_parse {words : List String} {c : Command}
    (read : parse .checker words = .ok c) (json : Bool) :
    parse .checker { c with json }.words = .ok { c with json } :=
  have sound := isSound_of_parse read
  parse_words ⟨sound.options, sound.some, sound.paths⟩

end Command

end Mhtml

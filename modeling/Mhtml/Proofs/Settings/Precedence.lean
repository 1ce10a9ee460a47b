import Mathlib.Data.List.Nodup
import Mhtml.Settings.Basic
import Mhtml.Proofs.Settings.JsonFlag

/-!
# Where settings come from

A settings file sets what its entries say: `FileSettings.parse?_eq_some_iff` tells which
texts are settings files and what they set. `Settings.Consults` tells which file counts
for a command line, and `Settings.depth_of_load` that the depth is that of the command
line, else that of the file, else the default, and never zero.
-/

namespace Mhtml

theorem FileEntry.text?_eq_some_iff {entry : FileEntry} {text : String} :
    entry.text? = some text ↔ entry = .text text := by
  cases entry <;> simp [text?]

namespace FileSettings

/-- An entry with a known key and a value of its kind. -/
inductive Known : String × Toml.Value → Prop where
  | logLevel (s : String) : Known ("log_level", .string s)
  | maxDepth {n : Nat} (small : n ≤ CommandLine.maxNumber) : Known ("max_nesting_depth", .integer n)

/-- What some entries set: each has a known key and stands alone with it, and the settings are those
of the entries. -/
structure Sets (entries : List (String × Toml.Value)) (f : FileSettings) : Prop where
  known : ∀ entry ∈ entries, Known entry
  once : (entries.map Prod.fst).Nodup
  logLevel : ∀ s, f.logLevel? = some s ↔ ("log_level", .string s) ∈ entries
  maxDepth : ∀ n : Nat, f.maxDepth? = some n ↔ ("max_nesting_depth", .integer n) ∈ entries

variable {f f' : FileSettings} {entries : List (String × Toml.Value)} {entry : String × Toml.Value}

theorem sets_nil : Sets [] {} where
  known := by simp
  once := List.nodup_nil
  logLevel := by simp
  maxDepth := by simp

/-- Entries set one thing. -/
theorem Sets.unique (one : Sets entries f) (other : Sets entries f') : f = f' := by
  obtain ⟨logLevel?, maxDepth?⟩ := f
  obtain ⟨logLevel?', maxDepth?'⟩ := f'
  rw [mk.injEq]
  exact ⟨Option.ext fun s => (one.logLevel s).trans (other.logLevel s).symm,
    Option.ext fun n => (one.maxDepth n).trans (other.maxDepth n).symm⟩

/-- A setting is there just if its key is among the entries. -/
theorem Sets.isSome_logLevel?_iff (sets : Sets entries f) :
    f.logLevel?.isSome = true ↔ "log_level" ∈ entries.map Prod.fst := by
  rw [Option.isSome_iff_exists, List.mem_map]
  constructor
  · rintro ⟨s, set⟩
    exact ⟨_, (sets.logLevel s).1 set, rfl⟩
  · rintro ⟨entry, among, key⟩
    cases sets.known entry among with
    | logLevel s => exact ⟨s, (sets.logLevel s).2 among⟩
    | maxDepth => exact absurd key (by decide : "max_nesting_depth" ≠ "log_level")

theorem Sets.isSome_maxDepth?_iff (sets : Sets entries f) :
    f.maxDepth?.isSome = true ↔ "max_nesting_depth" ∈ entries.map Prod.fst := by
  rw [Option.isSome_iff_exists, List.mem_map]
  constructor
  · rintro ⟨n, set⟩
    exact ⟨_, (sets.maxDepth n).1 set, rfl⟩
  · rintro ⟨entry, among, key⟩
    cases sets.known entry among with
    | logLevel s => exact absurd key (by decide : "log_level" ≠ "max_nesting_depth")
    | @maxDepth n small => exact ⟨n, (sets.maxDepth n).2 among⟩

/-- One more known entry with a new key. -/
theorem Sets.concat (sets : Sets entries f) (known : Known entry)
    (fresh : entry.1 ∉ entries.map Prod.fst)
    (logLevel : ∀ s, f'.logLevel? = some s ↔
      f.logLevel? = some s ∨ entry = ("log_level", .string s))
    (maxDepth : ∀ n : Nat, f'.maxDepth? = some n ↔
      f.maxDepth? = some n ∨ entry = ("max_nesting_depth", .integer n)) :
    Sets (entries ++ [entry]) f' where
  known := List.forall_mem_append.2 ⟨sets.known, List.forall_mem_singleton.2 known⟩
  once := by
    rw [List.map_append, List.nodup_append]
    refine ⟨sets.once, List.nodup_singleton _, fun key among other last => ?_⟩
    rintro rfl
    rw [List.map_singleton, List.mem_singleton] at last
    exact fresh (last ▸ among)
  logLevel s := by
    rw [logLevel, sets.logLevel, List.mem_append, List.mem_singleton, eq_comm (a := entry)]
  maxDepth n := by
    rw [maxDepth, sets.maxDepth, List.mem_append, List.mem_singleton, eq_comm (a := entry)]

/-- What the next entry sets. -/
theorem Sets.add? (sets : Sets entries f) (known : Known entry)
    (fresh : entry.1 ∉ entries.map Prod.fst) :
    ∃ f', f.add? entry = some f' ∧ Sets (entries ++ [entry]) f' := by
  cases known with
  | logLevel s =>
    have unset : f.logLevel?.isSome = false := by
      rw [← Bool.not_eq_true, sets.isSome_logLevel?_iff]
      exact fresh
    refine ⟨{ f with logLevel? := some s }, by simp [FileSettings.add?, unset],
      sets.concat (.logLevel s) fresh (fun t => ?_) (fun n => by simp)⟩
    have none : f.logLevel? = none := Option.isSome_eq_false_iff.1 unset |> Option.isNone_iff_eq_none.1
    simp [none]
  | @maxDepth n small =>
    have unset : f.maxDepth?.isSome = false := by
      rw [← Bool.not_eq_true, sets.isSome_maxDepth?_iff]
      exact fresh
    have none : f.maxDepth? = none := Option.isSome_eq_false_iff.1 unset |> Option.isNone_iff_eq_none.1
    have bound : ¬ (n : Int) > CommandLine.maxNumber := by omega
    refine ⟨{ f with maxDepth? := some n }, ?_,
      sets.concat (.maxDepth small) fresh (fun s => by simp) (fun m => ?_)⟩
    · simp [FileSettings.add?, unset, bound]
    · simp only [none, Option.some.injEq, reduceCtorEq, false_or, Prod.mk.injEq,
        Toml.Value.integer.injEq, true_and, Int.natCast_inj]

/-- Nothing else is added. -/
theorem Sets.of_add? (sets : Sets entries f) (added : f.add? entry = some f') :
    Known entry ∧ entry.1 ∉ entries.map Prod.fst := by
  unfold FileSettings.add? at added
  split at added
  next s =>
    split at added
    · cases added
    next unset => exact ⟨.logLevel s, fun among => unset (sets.isSome_logLevel?_iff.2 among)⟩
  next n =>
    split at added
    · cases added
    next good =>
      rw [Bool.or_eq_true, Bool.or_eq_true, not_or, not_or, decide_eq_true_eq, decide_eq_true_eq] at good
      obtain ⟨⟨unset, positive⟩, small⟩ := good
      obtain ⟨m, rfl⟩ := Int.eq_ofNat_of_zero_le (Int.not_lt.1 positive)
      exact ⟨.maxDepth (by omega), fun among => unset (sets.isSome_maxDepth?_iff.2 among)⟩
  next => cases added

/-- Entries added one after the other set what all of them set. -/
theorem Sets.foldlM_add?_iff (sets : Sets entries f) (later : List (String × Toml.Value)) :
    later.foldlM FileSettings.add? f = some f' ↔ Sets (entries ++ later) f' := by
  induction later generalizing entries f with
  | nil =>
    rw [List.append_nil, List.foldlM_nil]
    constructor
    · rintro ⟨⟩
      exact sets
    · intro sets'
      rw [sets.unique sets']
      rfl
  | cons entry later ih =>
    rw [List.foldlM_cons, ← List.singleton_append, ← List.append_assoc]
    constructor
    · intro added
      obtain ⟨f₁, first, rest⟩ := Option.bind_eq_some_iff.1 added
      obtain ⟨known, fresh⟩ := sets.of_add? first
      obtain ⟨f₂, same, sets₂⟩ := sets.add? known fresh
      rw [first] at same
      cases same
      exact (ih sets₂).1 rest
    · intro all
      have known : Known entry := all.known entry (by simp)
      have fresh : entry.1 ∉ entries.map Prod.fst := by
        have once := all.once
        rw [List.append_assoc, List.map_append, List.nodup_append] at once
        intro among
        exact once.2.2 entry.1 among entry.1 (by simp) rfl
      obtain ⟨f₁, first, sets₁⟩ := sets.add? known fresh
      exact Option.bind_eq_some_iff.2 ⟨f₁, first, (ih sets₁).2 all⟩

/-- A text is a settings file just if it has entries that set something. -/
theorem parse?_eq_some_iff {text : String} :
    parse? text = some f ↔ ∃ entries, Toml.parse? text.toList = some entries ∧ Sets entries f := by
  rw [parse?, Option.bind_eq_bind, Option.bind_eq_some_iff]
  exact exists_congr fun entries => and_congr_right fun _ => sets_nil.foldlM_add?_iff entries

/-- A settings file that is loaded is there and has entries that set what it sets. -/
theorem exists_entries_of_load {files : Files} {path : String} (loaded : load files path = .ok f) :
    ∃ text entries, files path = .text text ∧ Toml.parse? text.toList = some entries ∧
      Sets entries f := by
  unfold load at loaded
  split at loaded
  next => cases loaded
  next text there =>
    split at loaded
    next read =>
      cases loaded
      obtain ⟨entries, parsed, sets⟩ := parse?_eq_some_iff.1 read
      exact ⟨text, entries, FileEntry.text?_eq_some_iff.1 there, parsed, sets⟩
    next => cases loaded

end FileSettings

namespace Settings

/-- What the settings file says that counts for a command line: the one that it names, or else the
user's own if there is one; if there is none, nothing is set. -/
inductive Consults (files : Files) (userFile? : Option String) (options : Options) :
    FileSettings → Prop where
  | named {path text : String} {entries : List (String × Toml.Value)} {file : FileSettings}
      (named : options.config? = some path) (there : files path = .text text)
      (read : Toml.parse? text.toList = some entries) (sets : FileSettings.Sets entries file) :
      Consults files userFile? options file
  | own {path text : String} {entries : List (String × Toml.Value)} {file : FileSettings}
      (unnamed : options.config? = none) (own : userFile? = some path) (there : files path = .text text)
      (read : Toml.parse? text.toList = some entries) (sets : FileSettings.Sets entries file) :
      Consults files userFile? options file
  | neither (unnamed : options.config? = none) (none : ∀ path ∈ userFile?, files path = .missing) :
      Consults files userFile? options {}

variable {files : Files} {userFile? : Option String} {options : Options}

theorem consults_of_filePath? {path : String} {file : FileSettings}
    (counts : filePath? files userFile? options = some path)
    (loaded : FileSettings.load files path = .ok file) : Consults files userFile? options file := by
  obtain ⟨text, entries, there, read, sets⟩ := FileSettings.exists_entries_of_load loaded
  rw [filePath?] at counts
  cases named : options.config? with
  | some other =>
    rw [named] at counts
    cases counts
    exact .named named there read sets
  | none =>
    rw [named, Option.none_or] at counts
    exact .own named (Option.eq_some_of_filter_eq_some counts) there read sets

theorem consults_nothing (none : filePath? files userFile? options = none) :
    Consults files userFile? options {} := by
  rw [filePath?, Option.or_eq_none_iff, Option.filter_eq_none_iff] at none
  refine .neither none.1 fun path own => ?_
  have missing := none.2 path own
  simpa [FileEntry.isFile] using missing

/-- The depth is that of the command line, else that of the file that counts, else the default. It is
never zero. -/
theorem depth_of_load {settings : Settings} (loaded : load files userFile? options = .ok settings) :
    settings.maxDepth ≠ 0 ∧ ∃ file, Consults files userFile? options file ∧
      settings.maxDepth = (options.maxDepth?.or file.maxDepth?).getD 1024 := by
  unfold load at loaded
  dsimp only at loaded
  split at loaded
  next path counts =>
    obtain ⟨file, read, rest⟩ := bind_eq_ok_iff.1 loaded
    split at rest
    next => cases rest
    next some =>
      cases rest
      exact ⟨some, file, consults_of_filePath? counts read, rfl⟩
  next none =>
    obtain ⟨file, read, rest⟩ := bind_eq_ok_iff.1 loaded
    cases read
    split at rest
    next => cases rest
    next some =>
      cases rest
      exact ⟨some, {}, consults_nothing none, rfl⟩

end Settings

end Mhtml

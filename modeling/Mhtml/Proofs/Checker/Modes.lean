import Mhtml.Checker
import Mhtml.Proofs.Settings.Precedence
import Mhtml.Proofs.Settings.Spelling
import Mhtml.Proofs.Json.RoundTrip
import Mhtml.Proofs.Grammar.ReportOrder

/-!
# The two modes of the checker

The checker reads files in turn until one has no text, and reports on those it has
read, in lines of text or in JSON. `exists_reports` says which these are and what there
is to report, in terms of the files alone. A run keeps a flag and the lines written:
`take_eq` tells what one report does to both in either mode, and `goOn_eq`, by induction
on the files read, what a run leaves behind that goes on from any flag and any lines.
`checker_modes_agree` is the result for a command line. The form in JSON loses nothing,
since a report that was written is read back.
-/

namespace Mhtml

/-! ## Reports in JSON -/

theorem Position.isRegular_toJson (p : Position) : p.toJson.IsRegular :=
  .obj (by simp) (by simp [Json.nat, Json.IsRegular.int])

theorem Range.isRegular_toJson (r : Range) : r.toJson.IsRegular :=
  .obj (by simp) (by simp [Position.isRegular_toJson])

theorem Diagnostic.isRegular_toJson (d : Diagnostic) : d.toJson.IsRegular :=
  .obj (by simp) (by simp [Json.nat, Json.IsRegular.int, Json.IsRegular.str, Range.isRegular_toJson])

theorem Batch.isRegular_toJson (b : Batch) : b.toJson.IsRegular := by
  have diagnostics : ∀ v ∈ b.diagnostics.map Diagnostic.toJson, v.IsRegular :=
    List.forall_mem_map.2 fun d _ => d.isRegular_toJson
  exact .obj (by simp) (by simp [Json.IsRegular.int, Json.IsRegular.str, Json.IsRegular.arr diagnostics])

/-! ## Files and their reports -/

namespace Checker

/-- The report of a file that has a text. -/
def Reports (files : Files) (limit : Nat) (path : String) (batch : Batch) : Prop :=
  ∃ text, files path = .text text ∧ batch = ⟨path, 0, (validate limit text.toList).diagnostics⟩

/-- The files are read up to the first that has no text, and each that is read has its report. -/
theorem exists_reports (files : Files) (limit : Nat) (paths : List String) :
    ∃ read unread batches, paths = read ++ unread ∧
      (∀ path ∈ unread.head?, ∀ text, files path ≠ .text text) ∧
      List.Forall₂ (Reports files limit) read batches := by
  induction paths with
  | nil => exact ⟨[], [], [], rfl, by simp, .nil⟩
  | cons path paths ih =>
    cases known : (files path).text? with
    | none =>
      refine ⟨[], path :: paths, [], rfl, ?_, .nil⟩
      rintro _ ⟨⟩ text own
      rw [FileEntry.text?_eq_some_iff.2 own] at known
      cases known
    | some text =>
      obtain ⟨read, unread, later, rfl, stops, reports⟩ := ih
      have own : Reports files limit path ⟨path, 0, (validate limit text.toList).diagnostics⟩ :=
        ⟨text, FileEntry.text?_eq_some_iff.1 known, rfl⟩
      exact ⟨path :: read, unread, _ :: later, rfl, stops, .cons own reports⟩

/-- All that a pass reports are errors. -/
theorem severity_of_mem_diagnostics {limit : Nat} {text : List Char} {d : Diagnostic}
    (among : d ∈ (validate limit text).diagnostics) : d.severity = .error := by
  rw [Check.diagnostics_eq_flatMap] at among
  obtain ⟨c, -, reported⟩ := List.mem_flatMap.1 among
  exact (Check.entry_of_mem_report reported).standsIn.error

theorem exists_reports_of_mem {files : Files} {limit : Nat} {read : List String} {batches : List Batch}
    (reports : List.Forall₂ (Reports files limit) read batches) {b : Batch} (among : b ∈ batches) :
    ∃ path ∈ read, Reports files limit path b := by
  induction reports with
  | nil => cases among
  | @cons path batch read batches own _ ih =>
    rcases List.mem_cons.1 among with rfl | later
    · exact ⟨path, List.mem_cons_self, own⟩
    · obtain ⟨other, there, reported⟩ := ih later
      exact ⟨other, List.mem_cons_of_mem path there, reported⟩

/-- An error as a line of text: where it is, lines and columns counted from one, and what it says. -/
def errorLine (path : String) (d : Diagnostic) : String :=
  s!"{path}:{d.range.start.line + 1}:{d.range.start.character + 1}: error: {d.message}"

theorem diagnosticLine_of_error {d : Diagnostic} (error : d.severity = .error) (path : String) :
    diagnosticLine path d = errorLine path d := by
  have words : ∀ s : String, s ++ ": " ++ "error" ++ ": " = s ++ ": error: " := by
    intro s
    rw [String.append_assoc, String.append_assoc]
    rfl
  rw [diagnosticLine, error]
  exact congrArg (· ++ d.message) (words _)

/-- The lines that report a file. -/
def reportLines (json : Bool) (b : Batch) : List String :=
  if json then [b.toJson.compact] else b.diagnostics.map (errorLine b.uri)

theorem flatMap_reportLines (json : Bool) (batches : List Batch) :
    batches.flatMap (reportLines json) =
      if json then batches.map (·.toJson.compact)
      else batches.flatMap fun b => b.diagnostics.map (errorLine b.uri) := by
  cases json with
  | true => exact List.map_eq_flatMap.symm
  | false => rfl

/-! ## The run -/

theorem foldl_write (path : String) (ds : List Diagnostic) (p : Progress) :
    ds.foldl (fun p d => p.write (diagnosticLine path d)) p =
      { p with written := p.written ++ ds.map (diagnosticLine path) } := by
  induction ds generalizing p with
  | nil => simp
  | cons d ds ih =>
    rw [List.foldl_cons, ih]
    simp [Progress.write]

/-- Taking in a report, in either mode, notes whether it is empty and writes its lines after those
before. -/
theorem take_eq {files : Files} {limit : Nat} {path : String} {b : Batch}
    (own : Reports files limit path b) (json : Bool) (p : Progress) :
    p.take json path b =
      ⟨p.clean && b.diagnostics.isEmpty, p.written ++ reportLines json b⟩ := by
  obtain ⟨text, -, rfl⟩ := own
  cases json with
  | true => rfl
  | false =>
    have lines : (validate limit text.toList).diagnostics.map (diagnosticLine path) =
        (validate limit text.toList).diagnostics.map (errorLine path) :=
      List.map_congr_left fun d found => diagnosticLine_of_error (severity_of_mem_diagnostics found) path
    rw [Progress.take, if_neg (by decide), foldl_write, lines]
    rfl

/-- What a run has to leave behind that goes on from some progress. -/
theorem goOn_eq {files : Files} {limit : Nat} {read unread : List String} {batches : List Batch}
    (reports : List.Forall₂ (Reports files limit) read batches)
    (stops : ∀ path ∈ unread.head?, ∀ text, files path ≠ .text text) (json : Bool) (p : Progress) :
    goOn files limit json p (read ++ unread) =
      { exitCode := if unread = [] ∧ p.clean = true ∧ ∀ b ∈ batches, b.diagnostics = [] then 0 else 1
        lines := p.written.toList ++ batches.flatMap (reportLines json)
        error? := unread.head?.map ("Failed to read " ++ ·) } := by
  induction reports generalizing p with
  | nil =>
    cases unread with
    | nil => simp [goOn, Progress.finish]
    | cons path unread =>
      have none : (files path).text? = none := by
        cases known : (files path).text? with
        | none => rfl
        | some text => exact absurd (FileEntry.text?_eq_some_iff.1 known) (stops path rfl text)
      simp [goOn, none, Progress.finish]
  | @cons path batch read batches own reports ih =>
    obtain ⟨text, there, same⟩ := id own
    have known := FileEntry.text?_eq_some_iff.2 there
    have collected : (Batch.collect path 0 limit text.toList).1 = batch := same.symm
    rw [List.cons_append, goOn, known]
    dsimp only
    rw [collected, ih, take_eq own]
    simp [and_assoc]

end Checker

/-- **Both modes report the same findings.** The files named on a command line are read up to the
first that has no text. The checker reports these in their order, as one line of JSON for each that
reads as the report, or as one line of text for each diagnostic. In both modes the run fails if a
file has no text, and names the first such; it ends with zero just if all files were read and none
has a diagnostic. The depth is the one given, else that of the settings file that counts, else 1024.
A command line without the flag may have the flag put in front, and every command that is accepted
in one mode has words in both. -/
theorem checker_modes_agree {files : Files} {userFile? : Option String} {options : Options}
    {settings : Settings} (loaded : Settings.load files userFile? options = .ok settings)
    (paths : List String) :
    (settings.maxDepth ≠ 0 ∧ ∃ file, Settings.Consults files userFile? options file ∧
      settings.maxDepth = (options.maxDepth?.or file.maxDepth?).getD 1024) ∧
    (∃ read unread batches, paths = read ++ unread ∧
      (∀ path ∈ unread.head?, ∀ text, files path ≠ .text text) ∧
      List.Forall₂ (Checker.Reports files settings.maxDepth) read batches ∧
      (∀ b ∈ batches, '\n' ∉ b.toJson.compact.toList ∧
        Json.parse? b.toJson.compact = some (.obj [("uri", .str b.uri), ("version", .int 0),
          ("diagnostics", .arr (b.diagnostics.map Diagnostic.toJson))])) ∧
      (∀ json words, Command.parse .checker words = .ok ⟨options, json, paths⟩ →
        Checker.run files userFile? words =
          { exitCode := if unread = [] ∧ ∀ b ∈ batches, b.diagnostics = [] then 0 else 1
            lines :=
              if json then batches.map (·.toJson.compact)
              else batches.flatMap fun b => b.diagnostics.map (Checker.errorLine b.uri)
            error? := unread.head?.map ("Failed to read " ++ ·) })) ∧
    ∀ json words, Command.parse .checker words = .ok ⟨options, json, paths⟩ →
      (json = false → Command.parse .checker ("--json" :: words) = .ok ⟨options, true, paths⟩) ∧
      ∀ json', Command.parse .checker (Command.words ⟨options, json', paths⟩) =
        .ok ⟨options, json', paths⟩ := by
  obtain ⟨read, unread, batches, rfl, stops, reports⟩ :=
    Checker.exists_reports files settings.maxDepth paths
  refine ⟨Settings.depth_of_load loaded, ⟨read, unread, batches, rfl, stops, reports, ?_, ?_⟩, ?_⟩
  · intro b among
    obtain ⟨path, -, text, -, rfl⟩ := Checker.exists_reports_of_mem reports among
    have regular := Batch.isRegular_toJson ⟨path, 0, (validate settings.maxDepth text.toList).diagnostics⟩
    exact ⟨regular.feed_not_mem_text, regular.parse?_compact⟩
  · intro json words accepted
    rw [Checker.run, accepted]
    dsimp only
    rw [loaded]
    dsimp only
    rw [Checker.check, Checker.goOn_eq reports stops, Checker.flatMap_reportLines]
    simp
  · intro json words accepted
    refine ⟨?_, Command.parse_words_of_parse accepted⟩
    rintro rfl
    exact Command.parse_json_cons accepted

/-- A settings file, and a file with a finding before one that is missing. -/
def mixedFiles : Files
  | "depth.toml" => .text "max_nesting_depth = 3 # levels\n"
  | "clean" => .text "<html><head></head><body></body></html>"
  | "bad" => .text "<html></html>"
  | _ => .missing

theorem checker_modes_agree_mixedFiles :
    Settings.load mixedFiles none { config? := some "depth.toml" } =
      .ok { maxDepth := 3, file? := some "depth.toml" } ∧
    ∃ read unread batches, ["clean", "bad", "clean", "lost", "clean"] = read ++ unread ∧
      List.Forall₂ (Checker.Reports mixedFiles 3) read batches ∧
      (Checker.run mixedFiles none
        ["--config", "depth.toml", "clean", "bad", "clean", "lost", "clean"]).lines =
          batches.flatMap (fun b => b.diagnostics.map (Checker.errorLine b.uri)) ∧
      (Checker.run mixedFiles none
        ["--json", "--config", "depth.toml", "clean", "bad", "clean", "lost", "clean"]).lines =
          batches.map (·.toJson.compact) ∧
      (Checker.run mixedFiles none
        ["--config", "depth.toml", "clean", "bad", "clean", "lost", "clean"]).error? =
          some "Failed to read lost" := by
  have loaded : Settings.load mixedFiles none { config? := some "depth.toml" } =
      .ok { maxDepth := 3, file? := some "depth.toml" } := by
    decide +kernel
  have accepted : Command.parse .checker
      ["--config", "depth.toml", "clean", "bad", "clean", "lost", "clean"] =
      .ok ⟨{ config? := some "depth.toml" }, false, ["clean", "bad", "clean", "lost", "clean"]⟩ := rfl
  obtain ⟨-, ⟨read, unread, batches, parts, -, reports, -, runs⟩, flag⟩ :=
    checker_modes_agree loaded ["clean", "bad", "clean", "lost", "clean"]
  refine ⟨loaded, read, unread, batches, parts, reports, ?_, ?_, ?_⟩
  · rw [runs false _ accepted]
    rfl
  · rw [runs true _ ((flag false _ accepted).1 rfl)]
    rfl
  · decide +kernel

end Mhtml

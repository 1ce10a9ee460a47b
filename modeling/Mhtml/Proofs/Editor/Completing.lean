import Mathlib.Data.List.Basic
import Mhtml.Proofs.Editor.Turns
import Mhtml.Proofs.Source.Positions

/-!
# What completion leaves behind

What is offered for insertion takes up what stands before the cursor. The server
looks at the line only, but a line starts after a line feed, and no bracket reaches
over one, so the context it finds is that of all the text before the cursor. Each
item then completes that text: after `</` to a closing tag, after `<` to the whole
template, and the bracket is there once. `completion_completes_text` says so of the
answer to a request, and that the whole template is offered where there is no text.
-/

namespace Mhtml

/-! ## Contexts -/

/-- A word without a line feed ends a text just if it ends the last line. -/
theorem suffix_line_iff {word before line : List Char} (starts : StartsLine before)
    (plain : '\n' ∉ word) : word <:+ before ++ line ↔ word <:+ line := by
  refine ⟨fun ends => ?_, fun ends => ends.trans (List.suffix_append before line)⟩
  rcases List.suffix_or_suffix_of_suffix ends (List.suffix_append before line) with within | beyond
  · exact within
  · obtain ⟨outside, rfl⟩ := beyond
    -- What of the word stands before the line would end with the line feed.
    have front : outside <:+ before := by
      obtain ⟨rest, same⟩ := ends
      rw [← List.append_assoc, List.append_cancel_right_eq] at same
      exact ⟨rest, same⟩
    cases outside with
    | nil => exact List.suffix_rfl
    | cons c outside =>
      rcases starts with rfl | feed
      · exact absurd (List.suffix_nil.1 front) (List.cons_ne_nil c outside)
      · obtain ⟨rest, rfl⟩ := front
        rw [List.getLast?_append_of_ne_nil _ (List.cons_ne_nil c outside)] at feed
        exact absurd (List.mem_append_left line (List.mem_of_getLast? feed)) plain

/-- The context is told by the last line. -/
theorem CompletionContext.after_line {before line : List Char} (starts : StartsLine before) :
    after (before ++ line) = after line := by
  have same : ∀ word : List Char, '\n' ∉ word →
      word.isSuffixOf (before ++ line) = word.isSuffixOf line := by
    intro word plain
    rw [Bool.eq_iff_iff, List.isSuffixOf_iff_suffix, List.isSuffixOf_iff_suffix]
    exact suffix_line_iff starts plain
  rw [after, after, same ['<', '/'] (by decide), same ['<'] (by decide)]

namespace Source

variable {s : Source} {p : Position} {o : Nat}

/-- A line that has an offset for one of its positions has one for its start. -/
theorem offset?_lineStart {before rest : List Char} (text : s.text = before ++ rest)
    (starts : StartsLine before) : s.offset? ⟨before.count '\n', 0⟩ = some (byteSize before) := by
  have line : s.lines[before.count '\n']? = some ⟨byteSize before, rest⟩ :=
    lines_getElem?_iff.2 ⟨before, starts, text, rfl, rfl⟩
  rw [offset?, line]
  cases rest <;> rfl

/-- What stands before a position in its line leads to the context of all that stands before it. -/
theorem exists_linePrefix? (leads : s.offset? p = some o) :
    ∃ before after line, s.text = before ++ after ∧ byteSize before = o ∧
      s.linePrefix? p = some line ∧
      CompletionContext.after line = CompletionContext.after before := by
  obtain ⟨before, taken, after, text, starts, -, number, size, -⟩ := exists_line_of_offset? leads
  have first : s.offset? ⟨p.line, 0⟩ = some (byteSize before) := by
    rw [← number]
    exact offset?_lineStart (by rw [text, List.append_assoc]) starts
  have line : TextAt s.text ⟨byteSize before, o⟩ taken :=
    ⟨before, after, text, rfl, by rw [← size, byteSize_append]⟩
  refine ⟨before ++ taken, after, taken, text, size, ?_, (CompletionContext.after_line starts).symm⟩
  simp only [linePrefix?, first, leads, Option.bind_eq_bind, Option.bind_some, slice?_of_textAt line]

end Source

namespace CompletionContext

theorem after_closingTag (front : List Char) : after (front ++ ['<', '/']) = .closingTag := by
  rw [after, if_pos (List.isSuffixOf_iff_suffix.2 (List.suffix_append front _))]

theorem after_openingTag (front : List Char) : after (front ++ ['<']) = .openingTag := by
  have other : ¬ ['<', '/'] <:+ front ++ ['<'] := by
    rintro ⟨rest, same⟩
    have last := congrArg List.getLast? same
    simp at last
  rw [after, if_neg (mt List.isSuffixOf_iff_suffix.1 other),
    if_pos (List.isSuffixOf_iff_suffix.2 (List.suffix_append front _))]

theorem after_anywhere {before : List Char} (closing : ¬ ['<', '/'] <:+ before)
    (opening : ¬ ['<'] <:+ before) : after before = .anywhere := by
  rw [after, if_neg (mt List.isSuffixOf_iff_suffix.1 closing),
    if_neg (mt List.isSuffixOf_iff_suffix.1 opening)]

end CompletionContext

/-! ## Items -/

/-- A template starts with one bracket. -/
theorem Snippet.template_eq {s : Snippet} (known : s ∈ all) :
    s.template.toList = '<' :: s.unbracketed.toList := by
  have bracket : ∀ s ∈ all, s.template.toList.takeWhile (· == '<') = ['<'] := by decide +kernel
  rw [unbracketed, String.toList_ofList, ← List.singleton_append, ← bracket s known,
    List.takeWhile_append_dropWhile]

namespace CompletionItem

/-- Taking the item completes what stands before the cursor, and nothing stands there twice. -/
structure Completes (item : CompletionItem) (before : List Char) : Prop where
  /-- The start of a closing tag becomes the closing tag. -/
  closing : ∀ front, before = front ++ ['<', '/'] →
    before ++ item.insertText.toList = front ++ ("</" ++ item.snippet.label ++ ">").toList
  /-- The start of a tag becomes the template. -/
  opening : ∀ front, before = front ++ ['<'] →
    before ++ item.insertText.toList = front ++ item.snippet.template.toList
  /-- Anything else is followed by the template. -/
  anywhere : ¬ ['<', '/'] <:+ before → ¬ ['<'] <:+ before →
    item.insertText = item.snippet.template

variable {item : CompletionItem} {before : List Char}

/-- Every item that is offered after some text completes it. -/
theorem completes_of_mem (offered : item ∈ completionItems (.after before)) :
    item.Completes before := by
  obtain ⟨snippet, known, rfl⟩ := List.mem_map.1 offered
  constructor
  case closing =>
    rintro front rfl
    rw [CompletionContext.after_closingTag]
    simp [Snippet.item]
  case opening =>
    rintro front rfl
    rw [CompletionContext.after_openingTag, List.append_assoc]
    exact congrArg (front ++ ·) (Snippet.template_eq known).symm
  case anywhere =>
    intro closing opening
    rw [CompletionContext.after_anywhere closing opening]
    rfl

theorem Completes.suffix_closing (completes : item.Completes before)
    (closing : ['<', '/'] <:+ before) :
    ("</" ++ item.snippet.label ++ ">").toList <:+ before ++ item.insertText.toList := by
  obtain ⟨front, same⟩ := closing
  rw [completes.closing front same.symm]
  exact List.suffix_append front _

theorem Completes.suffix_template (completes : item.Completes before)
    (other : ¬ ['<', '/'] <:+ before) :
    item.snippet.template.toList <:+ before ++ item.insertText.toList := by
  by_cases opening : ['<'] <:+ before
  · obtain ⟨front, same⟩ := opening
    rw [completes.opening front same.symm]
    exact List.suffix_append front _
  · rw [completes.anywhere other opening]
    exact List.suffix_append before _

end CompletionItem

theorem map_snippet_completionItems (context : CompletionContext) :
    (completionItems context).map CompletionItem.snippet = Snippet.all := by
  rw [completionItems, List.map_map]
  cases context <;> exact List.map_id _

/-- Away from brackets every item is the whole template. -/
theorem insertText_anywhere {item : CompletionItem} (offered : item ∈ completionItems .anywhere) :
    item.insertText = item.snippet.template := by
  obtain ⟨snippet, -, rfl⟩ := List.mem_map.1 offered
  rfl

/-- A position that leads nowhere is away from brackets. -/
theorem completionAt_of_none {s : Source} {p : Position} (nowhere : s.offset? p = none) :
    completionAt s p = completionItems .anywhere := by
  have none : s.linePrefix? p = none := by
    simp only [Source.linePrefix?, nowhere, Option.bind_eq_bind, Option.bind_none,
      Option.bind_fun_none]
  rw [completionAt, none]
  rfl

theorem completionAt_of_linePrefix? {s : Source} {p : Position} {line : List Char}
    (found : s.linePrefix? p = some line) : completionAt s p = completionItems (.after line) := by
  rw [completionAt, found, Option.getD_some]

/-- **Completion takes up the bracket before the cursor.** Whatever document and position a request is
about, it is answered with an item for each snippet. If the position leads to an offset of the text of
an open document, the items are those for all the text before that offset, which is also what the line
tells. Each of them completes that text: after `</` it ends with the closing tag, and else with the
template, also after a `<`, and no bracket is there twice. If the document is not open or the position
leads nowhere, each item is the whole template. -/
theorem completion_completes_text (s : Session) (uri : String) (p : Position) :
    ∃ items, (s.act (.completion uri p)).answer = .result (.completion items) ∧
      items.map CompletionItem.snippet = Snippet.all ∧
      (∀ stored, s.documents.get? uri = some stored →
        ∀ o, (Source.ofText stored.text).offset? p = some o →
          ∃ before after line, stored.text = before ++ after ∧ byteSize before = o ∧
            (Source.ofText stored.text).linePrefix? p = some line ∧
            CompletionContext.after line = CompletionContext.after before ∧
            items = completionItems (.after before) ∧
            ∀ item ∈ items, item.Completes before ∧
              (['<', '/'] <:+ before →
                ("</" ++ item.snippet.label ++ ">").toList <:+ before ++ item.insertText.toList) ∧
              (¬ ['<', '/'] <:+ before →
                item.snippet.template.toList <:+ before ++ item.insertText.toList)) ∧
      ((∀ stored, s.documents.get? uri = some stored →
          (Source.ofText stored.text).offset? p = none) →
        ∀ item ∈ items, item.insertText = item.snippet.template) := by
  cases opened : s.documents.get? uri with
  | none =>
    refine ⟨completionItems .anywhere, ?_, map_snippet_completionItems _, ?_, ?_⟩
    · rw [Session.act, opened]
    · intro stored found
      cases found
    · exact fun _ item => insertText_anywhere
  | some stored =>
    have shown : (s.act (.completion uri p)).answer =
        .result (.completion (completionAt (.ofText stored.text) p)) := by
      rw [Session.act, opened]
      show Answer.result (.completion (completionAt stored.source p)) = _
      rw [stored.source.eq_ofText]
      rfl
    cases leads : (Source.ofText stored.text).offset? p with
    | none =>
      rw [completionAt_of_none leads] at shown
      refine ⟨_, shown, map_snippet_completionItems _, ?_, fun _ item => insertText_anywhere⟩
      intro other same o found
      cases same
      cases leads.symm.trans found
    | some o =>
      obtain ⟨before, after, line, text, size, own, context⟩ := Source.exists_linePrefix? leads
      rw [completionAt_of_linePrefix? own, context] at shown
      refine ⟨_, shown, map_snippet_completionItems _, ?_, ?_⟩
      · intro other same o' found
        cases same
        cases leads.symm.trans found
        refine ⟨before, after, line, text, size, own, context, rfl, fun item offered => ?_⟩
        have completes := CompletionItem.completes_of_mem offered
        exact ⟨completes, completes.suffix_closing, completes.suffix_template⟩
      · intro nowhere
        cases leads.symm.trans (nowhere stored rfl)

/-- A text with a line feed of two characters, and a cursor after the start of a tag. -/
def typedMarkup : List Char :=
  "</\r\n😀<".toList

/-- A session in which the document `a` is open. -/
def typingSession : Session where
  documents := (∅ : Store).insert "a" (.ofText typedMarkup 1)

theorem completion_completes_typedMarkup :
    (∃ items, (typingSession.act (.completion "a" ⟨0, 2⟩)).answer = .result (.completion items) ∧
      ∀ item ∈ items, "</".toList ++ item.insertText.toList =
        ("</" ++ item.snippet.label ++ ">").toList) ∧
    (∃ items, (typingSession.act (.completion "a" ⟨1, 3⟩)).answer = .result (.completion items) ∧
      ∀ item ∈ items, item.snippet.template.toList <:+ typedMarkup ++ item.insertText.toList) ∧
    (∃ items, (typingSession.act (.completion "a" ⟨2, 0⟩)).answer = .result (.completion items) ∧
      ∀ item ∈ items, item.insertText = item.snippet.template) := by
  have opened : typingSession.documents.get? "a" = some (.ofText typedMarkup 1) := by
    rw [typingSession, Store.get?_insert, if_pos rfl]
  have offsets : (Source.ofText typedMarkup).offset? ⟨0, 2⟩ = some 2 ∧
      (Source.ofText typedMarkup).offset? ⟨1, 3⟩ = some 9 ∧
      (Source.ofText typedMarkup).offset? ⟨2, 0⟩ = none := by decide +kernel
  have cut : ∀ front back before after, typedMarkup = front ++ back → typedMarkup = before ++ after →
      byteSize before = byteSize front → before = front := by
    intro front back before after whole whole' size
    exact (append_inj_of_byteSize_eq (whole'.symm.trans whole) size).1
  refine ⟨?_, ?_, ?_⟩
  · obtain ⟨items, answer, -, there, -⟩ := completion_completes_text typingSession "a" ⟨0, 2⟩
    obtain ⟨before, after, -, text, size, -, -, -, completes⟩ := there _ opened 2 offsets.1
    cases cut ['<', '/'] "\r\n😀<".toList before after (by decide) text size
    exact ⟨items, answer, fun item offered => (completes item offered).1.closing [] rfl⟩
  · obtain ⟨items, answer, -, there, -⟩ := completion_completes_text typingSession "a" ⟨1, 3⟩
    obtain ⟨before, after, -, text, size, -, -, -, completes⟩ := there _ opened 9 offsets.2.1
    cases cut typedMarkup [] before after (by simp) text size
    exact ⟨items, answer, fun item offered => (completes item offered).2.2 (by decide)⟩
  · obtain ⟨items, answer, -, -, nowhere⟩ := completion_completes_text typingSession "a" ⟨2, 0⟩
    refine ⟨items, answer, nowhere fun stored found => ?_⟩
    cases opened.symm.trans found
    exact offsets.2.2

end Mhtml

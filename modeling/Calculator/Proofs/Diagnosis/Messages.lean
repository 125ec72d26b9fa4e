import Calculator.Proofs.Diagnosis.Evidence

/-!
# Calculator — Proofs — Diagnosis — Messages

A report is shown as three lines: a headline made of its title and its detail, the line it is about
and a caret below the column.  The colon behind the title is the first of the headline, as no title
has one, so the headline tells the kind and the detail apart (`Diagnostic.headline_inj`).  A detail
is a name, a quoted character or a literal, and none of these breaks the headline
(`Line.Evidence.newline_not_mem_detail`).

**Messages** (`ofLine_message_lossless`).  Splitting the message about a line at the line ends gives
these three lines back, and two reports with one message are the same report.
-/

namespace Calculator

namespace Kind

theorem colon_not_mem_title (k : Kind) : ':' ∉ k.title.toList := by
  cases k <;> decide

theorem newline_not_mem_title (k : Kind) : '\n' ∉ k.title.toList := by
  cases k <;> decide

theorem find?_title (k : Kind) : all.find? (·.title == k.title) = some k := by
  cases k <;> decide

theorem title_inj {k k' : Kind} (h : k.title = k'.title) : k = k' := by
  have hk := find?_title k
  rw [h, find?_title k'] at hk
  exact (Option.some.inj hk).symm

end Kind

/-! ### Headlines -/

namespace Diagnostic

/-- The first line of a message. -/
def headline (d : Diagnostic) : String := d.kind.title ++ d.detailAfter ": "

/-- The last line of a message. -/
def caret (column : Nat) : String := String.ofList (List.replicate column ' ') ++ "^"

variable {d d' : Diagnostic} {line : String} {column : Nat}

/-- Behind the title comes the colon of the detail, or nothing. -/
theorem stops_detailAfter (d : Diagnostic) : Stops (· != ':') (d.detailAfter ": ").toList := by
  unfold detailAfter
  split
  · exact stops_nil _
  · rw [String.toList_append]
    exact stops_cons_iff.2 rfl

/-- The title is what the headline has before its first colon. -/
theorem takeWhile_headline (d : Diagnostic) :
    d.headline.toList.takeWhile (· != ':') = d.kind.title.toList := by
  have ht : ∀ x ∈ d.kind.title.toList, (x != ':') = true := by
    intro x hx
    exact bne_iff_ne.2 fun h => d.kind.colon_not_mem_title (h ▸ hx)
  rw [headline, String.toList_append, List.takeWhile_append_of_pos ht,
    (stops_detailAfter d).takeWhile_eq_nil, List.append_nil]

theorem detailAfter_inj (h : d.detailAfter ": " = d'.detailAfter ": ") : d.detail = d'.detail := by
  have hne : ∀ text : String, ": " ++ text ≠ "" := fun text h => by
    simpa using congrArg String.toList h
  unfold detailAfter at h
  split at h <;> split at h
  next hd hd' => rw [String.isEmpty_iff.1 hd, String.isEmpty_iff.1 hd']
  next => exact absurd h.symm (hne _)
  next => exact absurd h (hne _)
  next => exact String.append_right_inj _ |>.1 h

theorem headline_inj (h : d.headline = d'.headline) : d.kind = d'.kind ∧ d.detail = d'.detail := by
  have ht : d.kind.title = d'.kind.title := by
    rw [← String.toList_inj, ← takeWhile_headline, ← takeWhile_headline, h]
  refine ⟨Kind.title_inj ht, detailAfter_inj ?_⟩
  rw [headline, headline, ht] at h
  exact String.append_right_inj _ |>.1 h

theorem newline_not_mem_headline (h : '\n' ∉ d.detail.toList) : '\n' ∉ d.headline.toList := by
  rw [headline, String.toList_append, List.mem_append, not_or]
  refine ⟨d.kind.newline_not_mem_title, ?_⟩
  unfold detailAfter
  split
  · simp
  · simpa using h

/-! ### Lines of a message -/

theorem newline_not_mem_caret (column : Nat) : '\n' ∉ (caret column).toList := by
  simp [caret]

theorem caret_inj {column' : Nat} (h : caret column = caret column') : column = column' := by
  have := congrArg String.length h
  simpa [caret] using this

theorem message_eq (hl : d.line = some line) (hc : d.column = some column) :
    d.message = String.intercalate (String.singleton '\n') [d.headline, line, caret column] := by
  have hsep : String.singleton '\n' = "\n" := rfl
  simp [message, excerpt, headline, caret, hl, hc, hsep, String.append_assoc]

/-- A message is split at the line ends into its three lines. -/
theorem split_message (hl : d.line = some line) (hc : d.column = some column)
    (hline : '\n' ∉ line.toList) (hd : '\n' ∉ d.detail.toList) :
    (d.message.split '\n').toList.map (·.copy) = [d.headline, line, caret column] := by
  have hlines : ∀ s ∈ [d.headline, line, caret column], '\n' ∉ s.toList := by
    simp [newline_not_mem_headline hd, newline_not_mem_caret, hline]
  rw [message_eq hl hc, String.toList_split_intercalate hlines, if_neg (List.cons_ne_nil _ _)]

end Diagnostic

/-! ### Details -/

theorem newline_not_mem_of_letters {letters : List Char} (h : ∀ x ∈ letters, isLetter x = true) :
    '\n' ∉ letters :=
  fun hn => absurd (h _ hn) (by decide)

theorem Literal.IsWord.newline_not_mem {l : Literal} (h : l.IsWord) : '\n' ∉ l.text :=
  fun hn => absurd (h.isBlank_eq_false hn) (by decide)

theorem newline_not_mem_quoted (c : Char) : '\n' ∉ (Text.quoted c).toList := by
  simp [Text.quoted, Text.newline_not_mem_escape]

/-- What a fault is about is shown without a line end. -/
theorem Line.Evidence.newline_not_mem_detail {store : Store} {before after : List Char}
    {cause : Cause} (h : Line.Evidence store before after cause) : '\n' ∉ cause.detail.toList := by
  cases h with
  | noName | noEquals | unfinished => simp [Cause.detail]
  | expression h =>
      cases h with
      | ended | tooDeep | unclosed => simp [Cause.detail]
      | unexpected => exact newline_not_mem_quoted _
      | malformed hl => simp [Cause.detail, hl.newline_not_mem]
      | undefined hn => simpa [Cause.detail] using newline_not_mem_of_letters hn.2
      | operator _ _ _ _ hf => cases hf <;> simp [Cause.detail]

/-! ### Reports on lines -/

/-- A report on a line is shown in three lines. -/
theorem split_message_of_ofLine {store : Store} {line : String} {report : Diagnostic}
    (h : Statement.ofLine store line = .error report) (hline : '\n' ∉ line.toList) :
    ∃ column, report.line = some line ∧ report.column = some column ∧ column ≤ line.length ∧
      (report.message.split '\n').toList.map (·.copy) =
        [report.headline, line, Diagnostic.caret column] := by
  obtain ⟨f, hf, rfl⟩ := ofLine_eq_error_iff.1 h
  obtain ⟨u, hp, hev⟩ := exists_evidence_of_error hf
  exact ⟨f.place.column, rfl, rfl, hp.column_le_length,
    Diagnostic.split_message rfl rfl hline hev.newline_not_mem_detail⟩

/-- **Messages.**  The message about a line is split at the line ends into its headline, the line as
it is and a caret under the column, which is not behind the end of the line.  Of two reports on
lines, the message tells everything: kind, detail, column and line. -/
theorem ofLine_message_lossless :
    (∀ store line report, '\n' ∉ line.toList → Statement.ofLine store line = .error report →
      ∃ column, report.column = some column ∧ column ≤ line.length ∧
        (report.message.split '\n').toList.map (·.copy) =
          [report.headline, line, String.ofList (List.replicate column ' ') ++ "^"]) ∧
    ∀ store store' line line' report report', '\n' ∉ line.toList → '\n' ∉ line'.toList →
      Statement.ofLine store line = .error report →
      Statement.ofLine store' line' = .error report' →
      report.message = report'.message → report = report' := by
  refine ⟨fun _ _ _ hn h => ?_, fun _ _ _ _ report report' hn hn' h h' hm => ?_⟩
  · obtain ⟨column, -, hc, hle, hs⟩ := split_message_of_ofLine h hn
    exact ⟨column, hc, hle, hs⟩
  · obtain ⟨column, hl, hc, -, hs⟩ := split_message_of_ofLine h hn
    obtain ⟨column', hl', hc', -, hs'⟩ := split_message_of_ofLine h' hn'
    rw [hm, hs', List.cons.injEq, List.cons.injEq, List.cons.injEq] at hs
    obtain ⟨hhead, rfl, hcaret, -⟩ := hs
    obtain ⟨hkind, hdetail⟩ := Diagnostic.headline_inj hhead
    obtain rfl := Diagnostic.caret_inj hcaret
    cases report
    cases report'
    simp_all

/-- A character that cannot be shown is escaped, and the report on it is the same whatever the
variables are. -/
theorem ofLine_message_lossless_control :
    ∃ report, Statement.ofLine ∅ "1/\x01" = .error report ∧
      Statement.ofLine ((∅ : Store).insert "x" 7) "1/\x01" = .error report ∧
      (report.message.split '\n').toList.map (·.copy) =
        ["unexpected character: '\\u\x7b1\x7d'", "1/\x01", "  ^"] := by
  have hn : '\n' ∉ "1/\x01".toList := by decide
  have h : Statement.ofLine ∅ "1/\x01" =
      .error ⟨.unexpectedCharacter, "'\\u\x7b1\x7d'", some 2, some "1/\x01"⟩ := rfl
  have h' : Statement.ofLine ((∅ : Store).insert "x" 7) "1/\x01" =
      .error ⟨.unexpectedCharacter, "'\\u\x7b1\x7d'", some 2, some "1/\x01"⟩ := rfl
  obtain ⟨column, hc, -, hs⟩ := ofLine_message_lossless.1 _ _ _ hn h
  cases hc
  exact ⟨_, h, ofLine_message_lossless.2 _ _ _ _ _ _ hn hn h' h rfl ▸ h', hs⟩

end Calculator

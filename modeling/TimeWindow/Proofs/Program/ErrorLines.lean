import TimeWindow.Proofs.Endpoint.Timestamp
import TimeWindow.Proofs.Program.Run
import TimeWindow.Proofs.Program.Shown
import TimeWindow.Proofs.Selector.Choice
import TimeWindow.Proofs.Text.Lines
import TimeWindow.Proofs.Window.Request

namespace TimeWindow

namespace Event

open Text

def quoted : Event → List String
  | fallenBack token fallback => [token, fallback]
  | _ => []

theorem oneLine_token (s : Selector) : OneLine s.token := by
  cases s with
  | custom => decide
  | last span => cases span <;> decide

theorem oneLine_label (s : Selector) : OneLine s.label := by
  cases s with
  | custom => decide
  | last span => cases span <;> decide

theorem oneLine_timestamp (t : Millis) : OneLine (Calendar.timestamp t) := by
  by_cases h : (Calendar.Moment.ofEpochMillis t.toInt).date.Supported
  · rw [OneLine, Endpoint.toList_timestamp h]
    simp only [List.mem_append, List.mem_cons, not_or]
    exact ⟨⟨fun hd => absurd (Endpoint.mem_dateText hd) (by decide), by decide,
      fun ht => absurd (Endpoint.mem_timeText ht) (by decide)⟩, by decide⟩
  · rw [Endpoint.timestamp_of_not_supported h]
    exact oneLine_decimal _

theorem oneLine_refusal {token : String} (h : OneLine token) : OneLine (Selector.refusal token) :=
  oneLine_append.mpr ⟨oneLine_append.mpr ⟨by decide, h⟩, by decide⟩

theorem oneLine_text {e : Event} (h : ∀ t ∈ e.quoted, OneLine t) : OneLine e.text := by
  cases e with
  | fallenBack token fallback =>
    have token_oneLine := oneLine_refusal (h token List.mem_cons_self)
    have fallback_oneLine := h fallback (List.mem_cons_of_mem _ List.mem_cons_self)
    change OneLine (Selector.refusal token ++ ", falling back to '" ++ fallback ++ "'")
    simp only [oneLine_append, token_oneLine, fallback_oneLine, and_true, true_and]
    decide
  | boundsIgnored s =>
    change OneLine ("--start/--end are ignored for selector '" ++ s.token ++ "'")
    simp only [oneLine_append, oneLine_token, and_true]
    decide
  | inverted start stop =>
    rw [text_inverted]
    simp only [oneLine_append, oneLine_decimal, and_true]
    decide
  | resolved s w =>
    change OneLine ("resolved " ++ s.token ++ ": min_time=" ++ decimal w.first.toInt ++ " max_time=" ++
      decimal w.last.toInt)
    simp only [oneLine_append, oneLine_token, oneLine_decimal, and_true]
    decide
  | chosen s =>
    change OneLine ("Resolved '" ++ s.token ++ "' (" ++ s.label ++ ")")
    simp only [oneLine_append, oneLine_token, oneLine_label, and_true]
    decide
  | spanned w =>
    change OneLine ("Window: " ++ Calendar.timestamp w.firstMillis ++ " .. " ++
      Calendar.timestamp w.lastMillis ++ " (" ++ decimal w.seconds ++ "s)")
    simp only [oneLine_append, oneLine_timestamp, oneLine_decimal, and_true]
    decide

theorem oneLine_entry {e : Event} (h : ∀ t ∈ e.quoted, OneLine t) : OneLine e.entry := by
  have name : OneLine (e.level.name ++ " ") := by cases e.level <;> decide
  exact oneLine_append.mpr ⟨name, oneLine_visible (oneLine_text h)⟩

theorem not_error_prefix_entry (e : Event) : ¬ "Error:".toList <+: e.entry.toList := by
  rw [entry]
  cases e.level <;> simp [Level.name, List.cons_prefix_cons]

end Event

theorem Selector.quoted_of_mem_choose {token text : String} {fallback : Option String} {s : Selector}
    {told : List Event} {e : Event} (h : choose token fallback = (.ok s, told)) (he : e ∈ told)
    (ht : text ∈ e.quoted) : text = token ∨ IsToken text := by
  unfold choose at h
  split at h
  · cases h
    cases he
  · cases h
  · next hf =>
    split at h
    · next hs =>
      cases h
      cases List.mem_singleton.mp he
      simp only [Event.quoted, List.mem_cons, List.not_mem_nil, or_false] at ht
      obtain rfl | rfl := ht
      · exact .inl rfl
      · exact .inr ⟨_, ofToken?_eq_some_iff.mp hs⟩
    · cases h

theorem Bounds.quoted_of_mem_request {s : Selector} {start stop : Option String} {strict : Bool} {clock : Clock}
    {e : Event} (he : e ∈ (request s start stop strict clock).events) : e.quoted = [] := by
  cases s with
  | custom => simp at he
  | last span =>
    simp only [request] at he
    split at he
    · cases List.mem_singleton.mp he
      rfl
    · cases he

theorem Selector.quoted_of_mem_resolve {s : Selector} {bounds : Option Bounds} {clock : Clock} {e : Event}
    (he : e ∈ (s.resolve bounds clock).events) : e.quoted = [] := by
  cases s with
  | last span =>
    cases List.mem_singleton.mp he
    rfl
  | custom =>
    simp only [resolve] at he
    split at he
    · simp only [List.mem_cons, List.not_mem_nil, or_false] at he
      obtain rfl | rfl := he <;> rfl
    · cases List.mem_singleton.mp he
      rfl

theorem Program.quoted_of_mem_events {o : Options} {env : Environment} {clock : Clock} {printed text : String}
    {e : Event} (hl : o.list = false) (h : (run o env clock).result = .ok printed)
    (he : e ∈ (run o env clock).events) (ht : text ∈ e.quoted) :
    text = o.selectorToken env ∨ Selector.IsToken text := by
  obtain ⟨s, told, bounds, after, w, chosen, ran⟩ := exists_resolved_of_ok hl h
  simp only [ran, List.mem_append, List.mem_cons, List.not_mem_nil, or_false] at he
  obtain ((he | he) | he) | rfl | rfl := he
  · exact Selector.quoted_of_mem_choose chosen he ht
  · simp [Bounds.quoted_of_mem_request he] at ht
  · simp [Selector.quoted_of_mem_resolve he] at ht
  · cases ht
  · cases ht

theorem Text.getLast?_append {s t : String} (h : t.toList ≠ []) :
    (s ++ t).toList.getLast? = t.toList.getLast? := by
  rw [String.toList_append, List.getLast?_append_of_ne_nil _ h]

theorem Failure.getLast?_message_ne (f : Failure) : f.message.toList.getLast? ≠ some '\r' := by
  cases f with
  | selector token =>
    change ("invalid time type '" ++ token ++ "'").toList.getLast? ≠ _
    rw [Text.getLast?_append (by decide)]
    decide
  | fallback token =>
    change ("fallback: " ++ ("invalid time type '" ++ token ++ "'")).toList.getLast? ≠ _
    rw [← String.append_assoc, Text.getLast?_append (by decide)]
    decide
  | endpoint e =>
    have reason : e.fault.reason.toList ≠ [] ∧ e.fault.reason.toList.getLast? ≠ some '\r' := by
      cases e.fault <;> decide +kernel
    change ("Failed to parse time '" ++ e.text ++ "': " ++ e.fault.reason).toList.getLast? ≠ _
    rw [Text.getLast?_append reason.1]
    exact reason.2
  | bounds fault =>
    cases fault with
    | missingStart => decide
    | missingStop => decide
    | inverted start stop =>
      intro h
      have digits (n : Int) : '\r' ∉ Text.signed n := fun hm => absurd (Text.mem_signed hm) (by decide)
      have mem : '\r' ∈ ("custom range start " ++ Text.decimal start.toInt ++ " is after end " ++
        Text.decimal stop.toInt).toList := List.mem_of_getLast? h
      simp [Text.decimal, digits] at mem

namespace Program.Output

variable {r : Run} {text : String} {f : Failure} {most : Level}

theorem not_error_prefix_errorLines (h : r.result = .ok text)
    (quoted : ∀ e ∈ r.events, ∀ t ∈ e.quoted, Text.OneLine t) :
    ∀ line ∈ (ofRun most r).errorLines, ¬ "Error:".toList <+: line.toList := by
  intro line hl
  obtain ⟨message, hm, hl⟩ := List.mem_flatMap.mp hl
  obtain ⟨e, he, rfl⟩ := Run.exists_entry_of_mem_stderr h hm
  obtain ⟨only, hw, inFront⟩ := Text.writtenLines_of_oneLine (Event.oneLine_entry (quoted e he))
  rw [hw, List.mem_singleton] at hl
  subst hl
  exact fun error => e.not_error_prefix_entry (error.trans inFront)

theorem errorLines_of_error (h : r.result = .error f) :
    Text.writtenLines ("Error: " ++ f.message) <:+ (ofRun most r).errorLines ∧
      (Text.OneLine f.message → (ofRun most r).errorLines.getLast? = some ("Error: " ++ f.message)) := by
  have lines : (ofRun most r).errorLines = ((r.shownEvents most).map Event.entry).flatMap Text.writtenLines ++
      Text.writtenLines ("Error: " ++ f.message) := by
    rw [errorLines, ofRun, Run.stderr_of_error h, List.flatMap_append, List.flatMap_singleton]
  rw [lines]
  refine ⟨List.suffix_append _ _, ?_⟩
  intro oneLine
  have whole : Text.OneLine ("Error: " ++ f.message) := Text.oneLine_append.mpr ⟨by decide, oneLine⟩
  have unreturned : ("Error: " ++ f.message).toList.getLast? ≠ some '\r' := by
    have unreturned := f.getLast?_message_ne
    rw [String.toList_append, List.getLast?_append]
    cases hm : f.message.toList.getLast? with
    | none => decide
    | some c => rwa [hm] at unreturned
  rw [Text.writtenLines_eq_singleton whole unreturned, List.getLast?_concat]

end Program.Output

end TimeWindow

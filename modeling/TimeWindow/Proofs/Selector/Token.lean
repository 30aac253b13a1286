import TimeWindow.Json
import TimeWindow.Proofs.Json.Spelling
import TimeWindow.Proofs.Selector.Choice
import TimeWindow.Resolution

namespace TimeWindow.Selector

variable {s : String} {body : List Char}

theorem token_injective : Function.Injective token := by
  intro i j h
  have read := ofToken?_token i
  rw [h, ofToken?_token] at read
  exact (Option.some.inj read).symm

theorem jsonName_eq_token (s : Selector) : s.jsonName = s.token := by
  cases s with
  | last span => cases span <;> rfl
  | custom => rfl

theorem declared_perm_menu : declared.Perm menu := by decide

theorem mem_declared (s : Selector) : s ∈ declared := declared_perm_menu.mem_iff.mpr (mem_menu s)

theorem ofJsonName?_eq_some_iff {i : Selector} : ofJsonName? s = some i ↔ i.jsonName = s :=
  find?_name_eq_some_iff mem_declared (by decide)

theorem ofJsonName?_eq_ofToken? (s : String) : ofJsonName? s = ofToken? s := by
  ext i
  rw [ofJsonName?_eq_some_iff, ofToken?_eq_some_iff, jsonName_eq_token]

def stringText (body : List Char) : String := String.ofList ('"' :: (body ++ ['"']))

theorem ofJson_stringText (h : Json.Spells body s.toList) :
    ofJson (stringText body) =
      match ofJsonName? s with
      | some i => .ok i
      | none => .error .mistyped := by
  have quoted := Json.quoted_append h []
  have name : readJson (stringText body).toList = readName (body ++ ['"']) := by
    rw [stringText, String.toList_ofList]
    rfl
  rw [ofJson, Json.decode, name]
  simp only [readName, quoted, String.ofList_toList]
  cases ofJsonName? s <;> rfl

theorem ofJson_toJson (i : Selector) : ofJson i.toJson = .ok i := by
  have plain : i.jsonName.toList.all (Json.IsPlain ·) := by
    cases i with
    | last span => cases span <;> decide
    | custom => decide
  have text : i.toJson = stringText i.jsonName.toList := by
    rw [stringText, toJson, ← String.toList_inj]
    simp
  rw [text, ofJson_stringText (Json.spells_plain plain), ofJsonName?_eq_some_iff.mpr rfl]

theorem resolveToken_of_unknown (h : ofToken? s = none) (bounds : Option Bounds) (clock : Clock) :
    resolveToken s bounds clock = ⟨none, clock, []⟩ := by
  simp only [resolveToken, h]

theorem value_resolveToken_eq_none_iff (bounds : Option Bounds) (clock : Clock) :
    (resolveToken s bounds clock).value = none ↔ ofToken? s = none := by
  unfold resolveToken
  split
  · next h => simp [h]
  · next h => simp [h]

/-- Every selector is on the menu, its name in JSON is its token, and no other has it.  A text is read as the selector
whose token it is, as it stands and written as a string in any way; a text that is no token is named in the refusal, is
of the wrong type, and resolves to nothing, without the clock and without a word. -/
theorem readers_of_tokens_agree (s : String) :
    (∀ i, ofToken? s = some i ↔ i.token = s) ∧
    (∀ i j : Selector, i.token = s → j.token = s → i = j) ∧
    (∀ i : Selector, i ∈ menu ∧ ofToken? i.token = some i ∧ i.jsonName = i.token) ∧
    (ofToken? s = none → (choose s none).1 = .error (.selector s) ∧
      (Failure.selector s).message = "invalid time type '" ++ s ++ "'") ∧
    (∀ body, Json.Spells body s.toList →
      (∀ i, ofJson (stringText body) = .ok i ↔ ofToken? s = some i) ∧
      (ofToken? s = none → ofJson (stringText body) = .error .mistyped)) ∧
    ∀ bounds clock,
      ((resolveToken s bounds clock).value = none ↔ ofToken? s = none) ∧
      (ofToken? s = none →
        (resolveToken s bounds clock).clock = clock ∧ (resolveToken s bounds clock).events = []) := by
  refine ⟨fun _ => ofToken?_eq_some_iff, ?_, fun i => ⟨mem_menu i, ofToken?_token i, jsonName_eq_token i⟩, ?_, ?_,
    ?_⟩
  · rintro i j rfl h
    exact token_injective h.symm
  · intro h
    rw [choose_of_unknown (ofToken?_eq_none_iff.mp h)]
    exact ⟨rfl, rfl⟩
  · intro body h
    rw [ofJson_stringText h, ofJsonName?_eq_ofToken?]
    cases ofToken? s with
    | none => exact ⟨by simp, fun _ => rfl⟩
    | some j => exact ⟨by simp, by simp⟩
  · intro bounds clock
    refine ⟨value_resolveToken_eq_none_iff bounds clock, fun h => ?_⟩
    rw [resolveToken_of_unknown h]
    exact ⟨rfl, rfl⟩

theorem six_hours_escaped :
    ofJson "\"\\u0036hr\"" = .ok (.last .hr6) ∧
      ofJson "\"6HR\"" = .error .mistyped ∧ (resolveToken "6HR" none (.fixed 0)).events = [] := by
  have six : Json.HexUnit "0036".toList '6'.toNat :=
    .mk (i := 0) (j := 0) (k := 3) (l := 6) (by decide) (by decide) (by decide) (by decide)
  have escaped : Json.Spells (('\\' :: 'u' :: "0036".toList) ++ "hr".toList) "6hr".toList :=
    .cons (.unit six) (Json.spells_plain (by decide))
  have capitals : Json.Spells "6HR".toList "6HR".toList := Json.spells_plain (by decide)
  have unknown : ofToken? "6HR" = none := by decide
  refine ⟨?_, ?_, ?_⟩
  · exact (((readers_of_tokens_agree "6hr").2.2.2.2.1 _ escaped).1 _).mpr (by decide)
  · exact ((readers_of_tokens_agree "6HR").2.2.2.2.1 _ capitals).2 unknown
  · exact (((readers_of_tokens_agree "6HR").2.2.2.2.2 none (.fixed 0)).2 unknown).2

end TimeWindow.Selector

import TimeWindow.CommandLine

namespace TimeWindow

open CommandLine

namespace Options

variable {o : Options} {v : Valued} {s : Switch} {text : String}

def put (o : Options) (v : Valued) (text : String) : Options :=
  match v with
  | .start => { o with start := some text }
  | .stop => { o with stop := some text }
  | .fallback => { o with fallback := some text }

theorem record_of_none (h : o.value v = none) : o.record v text = .ok (o.put v text) := by
  simp only [record, h]
  cases v <;> rfl

theorem selector_of_record {r : Options} (h : o.record v text = .ok r) : r.selector = o.selector := by
  unfold record at h
  split at h
  · cases h
  · cases v <;> cases h <;> rfl

def on (o : Options) : Switch → Options
  | .strict => { o with strict := true }
  | .json => { o with json := true }
  | .list => { o with list := true }
  | .quiet => { o with quiet := true }
  | .verbose => { o with verbose := min mostVerbose (o.verbose + 1) }
  | .help => o
  | .version => o

def IsOff (o : Options) : Switch → Prop
  | .strict => o.strict = false
  | .json => o.json = false
  | .list => o.list = false
  | .quiet => o.quiet = false
  | .verbose => True
  | .help => False
  | .version => False

theorem turnOn_of_isOff (h : o.IsOff s) : o.turnOn s = .ok (o.on s) := by
  cases s with
  | strict => rw [turnOn, once, show o.strict = false from h]; rfl
  | json => rw [turnOn, once, show o.json = false from h]; rfl
  | list => rw [turnOn, once, show o.list = false from h]; rfl
  | quiet => rw [turnOn, once, show o.quiet = false from h]; rfl
  | verbose => rfl
  | help => exact h.elim
  | version => exact h.elim

end Options

namespace CommandLine

def Valued.name : Valued → String
  | start => "start"
  | stop => "end"
  | fallback => "fallback"

def Valued.shortest : Valued → String
  | start => "-s"
  | stop => "-e"
  | fallback => "--fallback"

def Switch.shortest : Switch → String
  | strict => "--strict"
  | json => "--json"
  | list => "--list"
  | quiet => "-q"
  | verbose => "-v"
  | help => "-h"
  | version => "-V"

inductive Spelling
  | long
  | short
  | joined
  deriving DecidableEq, Repr

inductive Phrase
  | valued : Spelling → Valued → String → Phrase
  | switch : Switch → Phrase
  deriving DecidableEq, Repr

namespace Phrase

def arguments : Phrase → List String
  | valued .long v text => ["--" ++ v.name, text]
  | valued .short v text => [v.shortest, text]
  | valued .joined v text => ["--" ++ v.name ++ "=" ++ text]
  | switch s => [s.shortest]

def say (o : Options) : Phrase → Options
  | valued _ v text => o.put v text
  | switch s => o.on s

def IsNew (o : Options) : Phrase → Prop
  | valued _ v _ => o.value v = none
  | switch s => o.IsOff s

/-- A fallback that begins with a hyphen is taken for another option. -/
def IsClear : Phrase → Prop
  | valued _ .fallback text => text.toList.head? ≠ some '-'
  | _ => True

end Phrase

theorem Shape.of_plain {arg : List Char} (h : arg.head? ≠ some '-') : Shape.of arg = .plain := by
  unfold Shape.of
  split
  · exact absurd rfl h
  · exact absurd rfl h
  · exact absurd rfl h
  · exact absurd rfl h
  · rfl

theorem Shape.of_joined (v : Valued) (text : String) :
    Shape.of ("--" ++ v.name ++ "=" ++ text).toList = .long v.name.toList (some text.toList) := by
  simp only [String.toList_append]
  cases v <;> rfl

theorem Named.ofName?_name (v : Valued) : ofName? (String.ofList v.name.toList) = some (.valued v) := by
  cases v <;> decide

inductive Names (arg : String) (n : Named) : Prop
  | long (name : List Char) : Shape.of arg.toList = .long name none →
    Named.ofName? (String.ofList name) = some n → Names arg n
  | short (letter : Char) : Shape.of arg.toList = .short [letter] → Named.ofLetter? letter = some n → Names arg n

theorem names_name (v : Valued) : Names ("--" ++ v.name) (.valued v) :=
  .long v.name.toList (by cases v <;> decide) (Named.ofName?_name v)

theorem names_shortest_valued : ∀ v : Valued, Names v.shortest (.valued v)
  | .start => .short 's' (by decide) rfl
  | .stop => .short 'e' (by decide) rfl
  | .fallback => names_name .fallback

theorem names_shortest_switch : ∀ s : Switch, Names s.shortest (.switch s)
  | .strict => .long "strict".toList (by decide) (by decide)
  | .json => .long "json".toList (by decide) (by decide)
  | .list => .long "list".toList (by decide) (by decide)
  | .quiet => .short 'q' (by decide) rfl
  | .verbose => .short 'v' (by decide) rfl
  | .help => .short 'h' (by decide) rfl
  | .version => .short 'V' (by decide) rfl

namespace Progress

variable {p : Progress} {o : Options} {v : Valued} {s : Switch} {text : String}

theorem selector_of_settle (h : p.settle = .ok o) : o.selector = p.options.selector := by
  unfold settle at h
  split at h
  · cases h
    rfl
  · cases h
  · exact Options.selector_of_record h

theorem read_cons_of_settle (h : p.settle = .ok o) (arg : String) (rest : List String) :
    p.read (arg :: rest) =
      match Shape.of arg.toList with
      | .ending => p.readPlain rest
      | .long name text => p.long name text >>= fun q => q.read rest
      | .short letters => p.short letters >>= fun q => q.read rest
      | .plain => p.plain arg >>= fun q => q.read rest := by
  obtain ⟨options, waiting⟩ := p
  rcases waiting with _ | ⟨v, _ | text⟩
  · cases hs : Shape.of arg.toList <;> simp only [read, hs]
  · cases h
  · cases v <;> cases hs : Shape.of arg.toList <;> simp only [read, hs]

theorem await_of_settle (h : p.settle = .ok o) : p.await v = .ok ⟨o, some (v, none)⟩ := by
  simp only [await, h]
  rfl

theorem attached_of_settle (h : p.settle = .ok o) (hv : o.value v = none) :
    p.attached v text.toList = .ok ⟨o.put v text, none⟩ := by
  simp only [attached, h, bind, Except.bind, String.ofList_toList, Options.record_of_none hv]
  rfl

theorem switch_of_settle (h : p.settle = .ok o) (hs : o.IsOff s) : p.switch s = .ok ⟨o.on s, none⟩ := by
  simp only [switch, h, bind, Except.bind, Options.turnOn_of_isOff hs]
  rfl

theorem read_of_names_valued (h : p.settle = .ok o) {arg : String} (hn : Names arg (.valued v))
    (rest : List String) : p.read (arg :: rest) = (⟨o, some (v, none)⟩ : Progress).read rest := by
  rw [read_cons_of_settle h]
  cases hn with
  | long _ shape named =>
    simp only [shape, long, named, await_of_settle h]
    rfl
  | short _ shape named =>
    simp only [shape, short, named, await_of_settle h]
    rfl

theorem read_of_names_switch (h : p.settle = .ok o) (hs : o.IsOff s) {arg : String} (hn : Names arg (.switch s))
    (rest : List String) : p.read (arg :: rest) = (⟨o.on s, none⟩ : Progress).read rest := by
  rw [read_cons_of_settle h]
  cases hn with
  | long _ shape named =>
    simp only [shape, long, named, switch_of_settle h hs]
    rfl
  | short _ shape named =>
    simp only [shape, short, named, switch_of_settle h hs]
    rfl

theorem read_value (o : Options) {how : Spelling} (clear : (Phrase.valued how v text).IsClear) (rest : List String) :
    (⟨o, some (v, none)⟩ : Progress).read (text :: rest) = (⟨o, some (v, some text)⟩ : Progress).read rest := by
  cases v with
  | start => simp only [read, fill]
  | stop => simp only [read, fill]
  | fallback => simp only [read, Shape.of_plain clear, fill]

theorem read_joined (h : p.settle = .ok o) (hv : o.value v = none) (rest : List String) :
    p.read (("--" ++ v.name ++ "=" ++ text) :: rest) = (⟨o.put v text, none⟩ : Progress).read rest := by
  rw [read_cons_of_settle h, Shape.of_joined]
  simp only [long, Named.ofName?_name, attached_of_settle h hv]
  rfl

/-- A phrase that is new and clear leaves all settled again, with what it says. -/
theorem exists_read_phrase {g : Phrase} (h : p.settle = .ok o) (new : g.IsNew o) (clear : g.IsClear) :
    ∃ q : Progress, q.settle = .ok (g.say o) ∧ ∀ rest, p.read (g.arguments ++ rest) = q.read rest := by
  cases g with
  | switch s => exact ⟨⟨o.on s, none⟩, rfl, read_of_names_switch h new (names_shortest_switch s)⟩
  | valued how v text =>
    cases how with
    | long =>
      refine ⟨⟨o, some (v, some text)⟩, Options.record_of_none new, fun rest => ?_⟩
      exact (read_of_names_valued h (names_name v) _).trans (read_value o clear rest)
    | short =>
      refine ⟨⟨o, some (v, some text)⟩, Options.record_of_none new, fun rest => ?_⟩
      exact (read_of_names_valued h (names_shortest_valued v) _).trans (read_value o clear rest)
    | joined => exact ⟨⟨o.put v text, none⟩, rfl, read_joined h new⟩

theorem read_selector (h : p.settle = .ok o) (hs : o.selector = none) (selector : String) :
    p.read ["--", selector] = .ok { o with selector := some selector } := by
  rw [read_cons_of_settle h]
  change p.readPlain [selector] = _
  simp only [readPlain, plain, ← selector_of_settle h, hs, h]
  rfl

end Progress

end CommandLine

end TimeWindow

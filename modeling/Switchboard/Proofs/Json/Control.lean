import Mathlib.Data.List.Chain
import Switchboard.Json.Reader

/-!
# The control of the reader of JSON

What the machine over tokens does next depends on little of what it has read. It sees the kinds of
the tokens only, not what strings say (`exists_ofTokens?_of_kind`), and it knows at each token which
may come next (`isChain_follows`). A step is one of a few moves, which `move_of_step` tells apart.
-/

namespace Switchboard.Json

namespace Reader

theorem run_nil (state : State) : run [] state = some state := rfl

theorem run_cons (t : Token) (T : List Token) (state : State) :
    run (t :: T) state = (step t state).bind (run T) :=
  List.foldlM_cons

theorem run_cons_eq_some_iff {t : Token} {T : List Token} {state last : State} :
    run (t :: T) state = some last ↔ ∃ next, step t state = some next ∧ run T next = some last := by
  rw [run_cons]
  exact Option.bind_eq_some_iff

theorem run_append (T U : List Token) (state : State) :
    run (T ++ U) state = (run T state).bind (run U) :=
  List.foldlM_append

/-- What a step can be. -/
inductive Move (t : Token) (stack : List Frame) (next : State) : Expected → Prop where
  | value : Reader.value stack t = some next → Move t stack next .value
  | firstValue : t ≠ .closeArray → Reader.value stack t = some next →
      Move t stack next .valueOrEnd
  | emptyArray : t = .closeArray → closeArray stack = some next → Move t stack next .valueOrEnd
  | key : Reader.key stack t = some next → Move t stack next .key
  | firstKey : t ≠ .closeObject → Reader.key stack t = some next → Move t stack next .keyOrEnd
  | emptyObject : t = .closeObject → closeObject stack = some next → Move t stack next .keyOrEnd
  | colon : t = .colon → next = ⟨stack, .value⟩ → Move t stack next .colon
  | nextValue {items : List Json} {outer : List Frame} : t = .comma →
      stack = .array items :: outer → next = ⟨stack, .value⟩ → Move t stack next .separator
  | nextKey {members : List (String × Json)} {outer : List Frame} : t = .comma →
      stack = .object members :: outer → next = ⟨stack, .key⟩ → Move t stack next .separator
  | endArray {items : List Json} {outer : List Frame} : t = .closeArray →
      stack = .array items :: outer → closeArray stack = some next →
      Move t stack next .separator
  | endObject {members : List (String × Json)} {outer : List Frame} : t = .closeObject →
      stack = .object members :: outer → closeObject stack = some next →
      Move t stack next .separator

theorem move_of_step {t : Token} {stack : List Frame} {expected : Expected} {next : State}
    (h : step t ⟨stack, expected⟩ = some next) : Move t stack next expected := by
  cases expected with
  | value => exact .value h
  | key => exact .key h
  | nothing v => cases h
  | valueOrEnd =>
      rw [step] at h
      split at h
      · next ht => exact .emptyArray ht h
      · next ht => exact .firstValue ht h
  | keyOrEnd =>
      rw [step] at h
      split at h
      · next ht => exact .emptyObject ht h
      · next ht => exact .firstKey ht h
  | colon =>
      rw [step] at h
      split at h
      · next ht => exact .colon ht (Option.some.inj h).symm
      · cases h
  | separator =>
      rcases stack with _ | ⟨_ | _ | _, stack⟩
      · cases h
      · rw [step] at h
        split at h
        · next ht => exact .nextValue ht rfl (Option.some.inj h).symm
        · split at h
          · next ht => exact .endArray ht rfl h
          · cases h
      · rw [step] at h
        split at h
        · next ht => exact .nextKey ht rfl (Option.some.inj h).symm
        · split at h
          · next ht => exact .endObject ht rfl h
          · cases h
      · cases h

end Reader

/-! ## Kinds of tokens -/

/-- A token without what a string says. -/
def Token.kind : Token → Token
  | .string _ => .string ""
  | t => t

namespace Reader

/-- A frame without what has been read into it. -/
def Frame.kind : Frame → Frame
  | .array _ => .array []
  | .object _ => .object []
  | .member _ _ => .member [] ""

/-- What may come next, without what has been read. -/
def Expected.kind : Expected → Expected
  | .nothing _ => .nothing .null
  | expected => expected

/-- A state without what has been read. -/
def State.kind (state : State) : State := ⟨state.stack.map Frame.kind, state.expected.kind⟩

theorem map_kind_kind (stack : List Frame) :
    (stack.map Frame.kind).map Frame.kind = stack.map Frame.kind := by
  rw [List.map_map]
  exact List.map_congr_left fun frame _ => by cases frame <;> rfl

theorem complete_kind (v w : Json) (stack : List Frame) :
    (complete v stack).map State.kind = (complete w (stack.map Frame.kind)).map State.kind := by
  cases stack with
  | nil => rfl
  | cons frame stack =>
      cases frame with
      | object members => rfl
      | array items | member members key =>
          simp only [complete, List.map_cons, Frame.kind, Option.map_some, State.kind,
            map_kind_kind]

theorem push_kind (frame : Frame) (expected : Expected) (stack : List Frame) :
    (push frame expected stack).map State.kind
      = (push frame expected (stack.map Frame.kind)).map State.kind := by
  unfold push
  rw [List.length_map]
  split
  · simp only [Option.map_some, State.kind, List.map_cons, map_kind_kind]
  · rfl

theorem value_kind (t : Token) (stack : List Frame) :
    (value stack t).map State.kind = (value (stack.map Frame.kind) t.kind).map State.kind := by
  cases t with
  | null | bool b | number n | string s => exact complete_kind _ _ stack
  | openArray | openObject => exact push_kind _ _ stack
  | closeArray | closeObject | comma | colon => rfl

theorem key_kind (t : Token) (stack : List Frame) :
    (key stack t).map State.kind = (key (stack.map Frame.kind) t.kind).map State.kind := by
  cases stack with
  | nil => rfl
  | cons frame stack =>
      cases frame with
      | array items | member members key => rfl
      | object members =>
          cases t with
          | string s =>
              simp only [key, Token.kind, List.map_cons, Frame.kind, Option.map_some, State.kind,
                map_kind_kind]
          | openArray | openObject | closeArray | closeObject | comma | colon | null | bool b
            | number n => rfl

theorem closeArray_kind (stack : List Frame) :
    (closeArray stack).map State.kind = (closeArray (stack.map Frame.kind)).map State.kind := by
  cases stack with
  | nil => rfl
  | cons frame stack =>
      cases frame with
      | array items => exact complete_kind _ _ stack
      | object members | member members key => rfl

theorem closeObject_kind (stack : List Frame) :
    (closeObject stack).map State.kind = (closeObject (stack.map Frame.kind)).map State.kind := by
  cases stack with
  | nil => rfl
  | cons frame stack =>
      cases frame with
      | object members => exact complete_kind _ _ stack
      | array items | member members key => rfl

theorem kind_eq_iff {t m : Token} (hm : ∀ s, m ≠ .string s) : t.kind = m ↔ t = m := by
  cases t with
  | string s =>
      constructor
      · exact fun h => absurd h.symm (hm "")
      · exact fun h => absurd h.symm (hm s)
  | openArray | openObject | closeArray | closeObject | comma | colon | null | bool b
    | number n => exact Iff.rfl

/-- **The machine's control sees kinds only.** -/
theorem step_kind (t : Token) (state : State) :
    (step t state).map State.kind = (step t.kind state.kind).map State.kind := by
  obtain ⟨stack, expected⟩ := state
  have hcloseArray := kind_eq_iff (t := t) (m := .closeArray) (fun _ h => by cases h)
  have hcloseObject := kind_eq_iff (t := t) (m := .closeObject) (fun _ h => by cases h)
  have hcomma := kind_eq_iff (t := t) (m := .comma) (fun _ h => by cases h)
  have hcolon := kind_eq_iff (t := t) (m := .colon) (fun _ h => by cases h)
  cases expected with
  | value => exact value_kind t stack
  | key => exact key_kind t stack
  | nothing v => rfl
  | valueOrEnd =>
      simp only [step, State.kind, Expected.kind, hcloseArray]
      split
      · exact closeArray_kind stack
      · exact value_kind t stack
  | keyOrEnd =>
      simp only [step, State.kind, Expected.kind, hcloseObject]
      split
      · exact closeObject_kind stack
      · exact key_kind t stack
  | colon =>
      simp only [step, State.kind, Expected.kind, hcolon]
      split
      · simp only [Option.map_some, State.kind, map_kind_kind]
      · rfl
  | separator =>
      cases stack with
      | nil => rfl
      | cons frame stack =>
          cases frame with
          | member members key => rfl
          | array items =>
              simp only [step, State.kind, Expected.kind, List.map_cons, Frame.kind, hcomma,
                hcloseArray]
              split
              · simp only [Option.map_some, State.kind, List.map_cons, Frame.kind, map_kind_kind]
              · split
                · exact closeArray_kind (.array items :: stack)
                · rfl
          | object members =>
              simp only [step, State.kind, Expected.kind, List.map_cons, Frame.kind, hcomma,
                hcloseObject]
              split
              · simp only [Option.map_some, State.kind, List.map_cons, Frame.kind, map_kind_kind]
              · split
                · exact closeObject_kind (.object members :: stack)
                · rfl

theorem run_kind_congr {T U : List Token} {state other : State}
    (h : T.map Token.kind = U.map Token.kind) (hstate : state.kind = other.kind) :
    (run T state).map State.kind = (run U other).map State.kind := by
  induction T generalizing U state other with
  | nil =>
      rw [List.map_nil, eq_comm, List.map_eq_nil_iff] at h
      rw [h, run_nil, run_nil, Option.map_some, Option.map_some, hstate]
  | cons t T ih =>
      cases U with
      | nil => cases h
      | cons u U =>
          obtain ⟨hhead, htail⟩ := List.cons.inj h
          have hstep : (step t state).map State.kind = (step u other).map State.kind := by
            rw [step_kind t, step_kind u, hhead, hstate]
          rw [run_cons, run_cons]
          cases ht : step t state with
          | none =>
              rw [ht, Option.map_none, eq_comm, Option.map_eq_none_iff] at hstep
              rw [hstep]
              rfl
          | some next =>
              rw [ht, Option.map_some, eq_comm] at hstep
              obtain ⟨next', hu, hnext⟩ := Option.map_eq_some_iff.1 hstep
              rw [hu]
              exact ih htail hnext.symm

end Reader

open Reader

/-- A text's tokens are a value when the machine comes to the state in which nothing may follow. -/
theorem ofTokens?_eq_some_iff {T : List Token} {v : Json} :
    ofTokens? T = some v ↔ ∃ stack, run T ⟨[], .value⟩ = some ⟨stack, .nothing v⟩ := by
  unfold ofTokens?
  constructor
  · intro h
    split at h
    · next stack w hrun =>
      cases h
      exact ⟨stack, hrun⟩
    · cases h
  · rintro ⟨stack, hrun⟩
    rw [hrun]

/-- **Whether tokens are a value** is a matter of their kinds. -/
theorem exists_ofTokens?_of_kind {T U : List Token} {v : Json}
    (h : T.map Token.kind = U.map Token.kind) (hT : ofTokens? T = some v) :
    ∃ w, ofTokens? U = some w := by
  obtain ⟨stack, hrun⟩ := ofTokens?_eq_some_iff.1 hT
  have hkind : (run T ⟨[], .value⟩).map State.kind = (run U ⟨[], .value⟩).map State.kind :=
    run_kind_congr h rfl
  rw [hrun, Option.map_some, eq_comm] at hkind
  obtain ⟨⟨stack', expected⟩, hU, hfinal⟩ := Option.map_eq_some_iff.1 hkind
  cases expected with
  | nothing w => exact ⟨w, ofTokens?_eq_some_iff.2 ⟨stack', hU⟩⟩
  | value | valueOrEnd | key | keyOrEnd | colon | separator =>
      exact absurd (congrArg State.expected hfinal) (fun h => by cases h)

/-! ## What may come next -/

namespace Token

/-- Whether a token closes an array or an object. -/
def closes : Token → Bool
  | .closeArray => true
  | .closeObject => true
  | _ => false

/-- Whether a token opens an array or an object. -/
def opens : Token → Bool
  | .openArray => true
  | .openObject => true
  | _ => false

/-- Whether a token is a mark that may stand after a complete value or a key. -/
def separates : Token → Bool
  | .comma => true
  | .colon => true
  | t => t.closes

/-- Whether one token may come after another. -/
def follows (t u : Token) : Prop :=
  if t = .comma then u.closes = false
  else if t.opens ∨ t = .colon then True
  else u.separates = true

end Token

namespace Reader

/-- Whether what came last was complete: a value, or a key. -/
def Expected.isSettled : Expected → Bool
  | .colon => true
  | .separator => true
  | .nothing _ => true
  | _ => false

theorem isSettled_of_complete {v : Json} {stack : List Frame} {next : State}
    (h : complete v stack = some next) : next.expected.isSettled = true := by
  rcases stack with _ | ⟨_ | _ | _, stack⟩ <;> cases h <;> rfl

theorem isSettled_of_closeArray {stack : List Frame} {next : State}
    (h : closeArray stack = some next) : next.expected.isSettled = true := by
  rcases stack with _ | ⟨_ | _ | _, stack⟩
  · cases h
  · exact isSettled_of_complete h
  · cases h
  · cases h

theorem isSettled_of_closeObject {stack : List Frame} {next : State}
    (h : closeObject stack = some next) : next.expected.isSettled = true := by
  rcases stack with _ | ⟨_ | _ | _, stack⟩
  · cases h
  · cases h
  · exact isSettled_of_complete h
  · cases h

theorem isSettled_of_value {t : Token} {stack : List Frame} {next : State}
    (ht : t.opens = false) (h : value stack t = some next) : next.expected.isSettled = true := by
  cases t with
  | null | bool b | number n | string s => exact isSettled_of_complete h
  | openArray | openObject => cases ht
  | closeArray | closeObject | comma | colon => cases h

theorem isSettled_of_key {t : Token} {stack : List Frame} {next : State}
    (h : key stack t = some next) : next.expected.isSettled = true := by
  unfold key at h
  split at h
  · cases h
    rfl
  · cases h

theorem isSettled_of_step {t : Token} {state next : State} (hopens : t.opens = false)
    (hcomma : t ≠ .comma) (hcolon : t ≠ .colon) (h : step t state = some next) :
    next.expected.isSettled = true := by
  obtain ⟨stack, expected⟩ := state
  cases move_of_step h with
  | value hvalue | firstValue _ hvalue => exact isSettled_of_value hopens hvalue
  | key hkey | firstKey _ hkey => exact isSettled_of_key hkey
  | emptyArray _ hclose | endArray _ _ hclose => exact isSettled_of_closeArray hclose
  | emptyObject _ hclose | endObject _ _ hclose => exact isSettled_of_closeObject hclose
  | colon ht => exact absurd ht hcolon
  | nextValue ht | nextKey ht => exact absurd ht hcomma

theorem separates_of_isSettled {t : Token} {state next : State}
    (hsettled : state.expected.isSettled = true) (h : step t state = some next) :
    t.separates = true := by
  obtain ⟨stack, expected⟩ := state
  cases move_of_step h with
  | value | firstValue | key | firstKey | emptyArray | emptyObject => cases hsettled
  | colon ht | nextValue ht | nextKey ht | endArray ht | endObject ht => rw [ht]; rfl

/-- After a comma there must come a value or a key. -/
theorem expected_of_comma {state next : State} (h : step .comma state = some next) :
    next.expected = .value ∨ next.expected = .key := by
  obtain ⟨stack, expected⟩ := state
  cases move_of_step h with
  | value hvalue | firstValue _ hvalue => cases hvalue
  | key hkey | firstKey _ hkey => rcases stack with _ | ⟨_ | _ | _, stack⟩ <;> cases hkey
  | emptyArray ht | emptyObject ht | colon ht | endArray ht | endObject ht => cases ht
  | nextValue _ _ hnext => exact Or.inl (by rw [hnext])
  | nextKey _ _ hnext => exact Or.inr (by rw [hnext])

/-- A comma comes after a complete value only, and opens and closes nothing. -/
theorem expected_before_comma {stack : List Frame} {expected : Expected} {next : State}
    (h : step .comma ⟨stack, expected⟩ = some next) :
    expected = .separator ∧ next.stack = stack := by
  cases move_of_step h with
  | value hvalue | firstValue _ hvalue => cases hvalue
  | key hkey | firstKey _ hkey => rcases stack with _ | ⟨_ | _ | _, stack⟩ <;> cases hkey
  | emptyArray ht | emptyObject ht | colon ht | endArray ht | endObject ht => cases ht
  | nextValue _ _ hnext | nextKey _ _ hnext => exact ⟨rfl, by rw [hnext]⟩

theorem eq_string_of_key {t : Token} {stack : List Frame} {next : State}
    (h : key stack t = some next) : ∃ s, t = .string s := by
  unfold key at h
  split at h
  · exact ⟨_, rfl⟩
  · cases h

/-- What closes an array or an object comes after a complete value, or at once. -/
theorem expected_before_closing {t : Token} {stack : List Frame} {expected : Expected}
    {next : State} (ht : t.closes = true) (h : step t ⟨stack, expected⟩ = some next) :
    expected = .separator ∨ expected = .valueOrEnd ∨ expected = .keyOrEnd := by
  cases move_of_step h with
  | value hvalue | firstValue _ hvalue =>
      cases t with
      | closeArray | closeObject => cases hvalue
      | openArray | openObject | comma | colon | null | bool b | number n | string s => cases ht
  | key hkey | firstKey _ hkey =>
      obtain ⟨s, rfl⟩ := eq_string_of_key hkey
      cases ht
  | emptyArray => exact Or.inr (Or.inl rfl)
  | emptyObject => exact Or.inr (Or.inr rfl)
  | colon hother =>
      rw [hother] at ht
      cases ht
  | nextValue | nextKey | endArray | endObject => exact Or.inl rfl

/-- An opening bracket comes where a value may come. -/
theorem value_of_opens {t : Token} {stack : List Frame} {expected : Expected} {next : State}
    (ht : t.opens = true) (h : step t ⟨stack, expected⟩ = some next) :
    value stack t = some next := by
  cases move_of_step h with
  | value hvalue | firstValue _ hvalue => exact hvalue
  | key hkey | firstKey _ hkey =>
      obtain ⟨s, rfl⟩ := eq_string_of_key hkey
      cases ht
  | emptyArray hother | emptyObject hother | colon hother | nextValue hother | nextKey hother
    | endArray hother | endObject hother =>
      rw [hother] at ht
      cases ht

theorem closeArray_of_step {stack : List Frame} {expected : Expected} {next : State}
    (h : step .closeArray ⟨stack, expected⟩ = some next) : closeArray stack = some next := by
  cases move_of_step h with
  | value hvalue | firstValue _ hvalue => cases hvalue
  | key hkey | firstKey _ hkey => rcases stack with _ | ⟨_ | _ | _, stack⟩ <;> cases hkey
  | emptyObject ht | colon ht | nextValue ht | nextKey ht | endObject ht => cases ht
  | emptyArray _ hclose | endArray _ _ hclose => exact hclose

theorem closeObject_of_step {stack : List Frame} {expected : Expected} {next : State}
    (h : step .closeObject ⟨stack, expected⟩ = some next) : closeObject stack = some next := by
  cases move_of_step h with
  | value hvalue | firstValue _ hvalue => cases hvalue
  | key hkey | firstKey _ hkey => rcases stack with _ | ⟨_ | _ | _, stack⟩ <;> cases hkey
  | emptyArray ht | colon ht | nextValue ht | nextKey ht | endArray ht => cases ht
  | emptyObject _ hclose | endObject _ _ hclose => exact hclose

/-- After a colon there must come a value. -/
theorem eq_of_colon {stack : List Frame} {expected : Expected} {next : State}
    (h : step .colon ⟨stack, expected⟩ = some next) : next = ⟨stack, .value⟩ := by
  cases move_of_step h with
  | value hvalue | firstValue _ hvalue => cases hvalue
  | key hkey | firstKey _ hkey => rcases stack with _ | ⟨_ | _ | _, stack⟩ <;> cases hkey
  | emptyArray ht | emptyObject ht | endArray ht | endObject ht | nextValue ht | nextKey ht =>
      cases ht
  | colon _ hnext => exact hnext

theorem follows_of_step {t u : Token} {state next last : State} (ht : step t state = some next)
    (hu : step u next = some last) : t.follows u := by
  unfold Token.follows
  split
  · next hcomma =>
    subst hcomma
    obtain ⟨stack, expected⟩ := next
    have hexpected := expected_of_comma ht
    cases u with
    | closeArray | closeObject =>
        rcases hexpected with rfl | rfl
        · cases hu
        · rcases stack with _ | ⟨_ | _ | _, stack⟩ <;> cases hu
    | openArray | openObject | comma | colon | null | bool b | number n | string s => rfl
  · next hcomma =>
    split
    · trivial
    · next hother =>
      have hopens : t.opens = false := (Bool.not_eq_true _).mp fun h => hother (Or.inl h)
      have hcolon : t ≠ .colon := fun h => hother (Or.inr h)
      exact separates_of_isSettled (isSettled_of_step hopens hcomma hcolon ht) hu

/-- **Tokens that the machine reads** are such that each may come after the one before. -/
theorem isChain_follows {T : List Token} {state last : State} (h : run T state = some last) :
    T.IsChain Token.follows := by
  induction T generalizing state with
  | nil => exact .nil
  | cons t T ih =>
      obtain ⟨next, ht, hT⟩ := run_cons_eq_some_iff.1 h
      cases T with
      | nil => exact .singleton t
      | cons u T =>
          obtain ⟨next', hu, -⟩ := run_cons_eq_some_iff.1 hT
          exact List.isChain_cons_cons.2 ⟨follows_of_step ht hu, ih hT⟩

end Reader

end Switchboard.Json

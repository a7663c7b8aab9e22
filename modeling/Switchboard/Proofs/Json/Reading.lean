import Mathlib.Data.List.Forall2
import Switchboard.Proofs.Json.Control

/-!
# Values inside of values

Where the machine over tokens reads a value, it reads the same value inside any arrays and objects
around it, as long as they are not too many. How many are too many depends on `nesting`, the
brackets that the tokens open at a time.

`Reads` says that, of tokens on their own: they are read as a value wherever a value may come.
Tokens of which it is known are put together to arrays and objects of which it is known.
-/

namespace Switchboard.Json

open Reader

/-! ## Values inside of others -/

/-- How many arrays and objects the tokens open at a time. -/
def nesting : List Token → Nat
  | [] => 0
  | t :: T => if t.opens then nesting T + 1 else if t.closes then nesting T - 1 else nesting T

theorem Token.opens_kind (t : Token) : t.kind.opens = t.opens := by
  cases t <;> rfl

theorem Token.closes_kind (t : Token) : t.kind.closes = t.closes := by
  cases t <;> rfl

theorem nesting_of_kind {T U : List Token} (h : T.map Token.kind = U.map Token.kind) :
    nesting T = nesting U := by
  induction T generalizing U with
  | nil =>
      rw [List.map_nil, eq_comm, List.map_eq_nil_iff] at h
      rw [h]
  | cons t T ih =>
      cases U with
      | nil => cases h
      | cons u U =>
          obtain ⟨hhead, htail⟩ := List.cons.inj h
          have hopens : t.opens = u.opens := by
            rw [← Token.opens_kind t, hhead, Token.opens_kind]
          have hcloses : t.closes = u.closes := by
            rw [← Token.closes_kind t, hhead, Token.closes_kind]
          rw [nesting, nesting, ih htail, hopens, hcloses]

namespace Reader

/-- A state with arrays and objects around what it has open. A value that is complete goes to the
innermost of them. -/
def State.inside (base : List Frame) : State → Option State
  | ⟨_, .nothing v⟩ => complete v base
  | ⟨stack, expected⟩ => some ⟨stack ++ base, expected⟩

variable {base : List Frame}

theorem complete_append (v : Json) (stack : List Frame) :
    complete v (stack ++ base) = (complete v stack).bind (State.inside base) := by
  rcases stack with _ | ⟨_ | _ | _, stack⟩ <;> rfl

theorem complete_inside {v : Json} {stack : List Frame} {next : State}
    (h : complete v stack = some next) : complete v (stack ++ base) = next.inside base := by
  rw [complete_append, h, Option.bind_some]

theorem push_inside {frame : Frame} {expected : Expected} {stack : List Frame} {next : State}
    (hexpected : ∀ v, expected ≠ .nothing v) (hroom : stack.length + base.length < nestingLimit)
    (h : push frame expected stack = some next) :
    push frame expected (stack ++ base) = next.inside base := by
  unfold push at h ⊢
  rw [List.length_append, if_pos hroom]
  split at h
  · cases h
    cases expected with
    | nothing v => exact absurd rfl (hexpected v)
    | value | valueOrEnd | key | keyOrEnd | colon | separator => rfl
  · cases h

theorem value_inside {t : Token} {stack : List Frame} {next : State}
    (hroom : t.opens = true → stack.length + base.length < nestingLimit)
    (h : value stack t = some next) : value (stack ++ base) t = next.inside base := by
  cases t with
  | null | bool b | number n | string s => exact complete_inside h
  | openArray | openObject => exact push_inside (fun _ h => by cases h) (hroom rfl) h
  | closeArray | closeObject | comma | colon => cases h

theorem key_inside {t : Token} {stack : List Frame} {next : State}
    (h : key stack t = some next) : key (stack ++ base) t = next.inside base := by
  unfold key at h
  split at h
  · cases h
    rfl
  · cases h

theorem closeArray_inside {stack : List Frame} {next : State}
    (h : closeArray stack = some next) : closeArray (stack ++ base) = next.inside base := by
  rcases stack with _ | ⟨_ | _ | _, stack⟩
  · cases h
  · exact complete_inside h
  · cases h
  · cases h

theorem closeObject_inside {stack : List Frame} {next : State}
    (h : closeObject stack = some next) : closeObject (stack ++ base) = next.inside base := by
  rcases stack with _ | ⟨_ | _ | _, stack⟩
  · cases h
  · cases h
  · exact complete_inside h
  · cases h

/-- **A step inside of others** is the same step, if there is room for what it opens. -/
theorem step_inside {t : Token} {state next : State}
    (hroom : t.opens = true → state.stack.length + base.length < nestingLimit)
    (h : step t state = some next) : (state.inside base).bind (step t) = next.inside base := by
  obtain ⟨stack, expected⟩ := state
  cases move_of_step h with
  | value hvalue => exact value_inside hroom hvalue
  | key hkey => exact key_inside hkey
  | firstValue ht hvalue => exact (if_neg ht).trans (value_inside hroom hvalue)
  | emptyArray ht hclose => exact (if_pos ht).trans (closeArray_inside hclose)
  | firstKey ht hkey => exact (if_neg ht).trans (key_inside hkey)
  | emptyObject ht hclose => exact (if_pos ht).trans (closeObject_inside hclose)
  | colon ht hnext =>
      rw [hnext]
      exact if_pos ht
  | nextValue ht hstack hnext | nextKey ht hstack hnext =>
      rw [hnext, hstack]
      exact if_pos ht
  | endArray ht hstack hclose =>
      have hinside : closeArray (stack ++ base) = next.inside base := closeArray_inside hclose
      rw [hstack] at hinside ⊢
      rw [← hinside, ht]
      rfl
  | endObject ht hstack hclose =>
      have hinside : closeObject (stack ++ base) = next.inside base := closeObject_inside hclose
      rw [hstack] at hinside ⊢
      rw [← hinside, ht]
      rfl

theorem length_of_complete {v : Json} {stack : List Frame} {next : State}
    (h : complete v stack = some next) : next.stack.length = stack.length := by
  rcases stack with _ | ⟨_ | _ | _, stack⟩ <;> cases h <;> rfl

theorem length_of_closeArray {stack : List Frame} {next : State}
    (h : closeArray stack = some next) : next.stack.length + 1 = stack.length := by
  rcases stack with _ | ⟨_ | _ | _, stack⟩
  · cases h
  · rw [length_of_complete h, List.length_cons]
  · cases h
  · cases h

theorem length_of_closeObject {stack : List Frame} {next : State}
    (h : closeObject stack = some next) : next.stack.length + 1 = stack.length := by
  rcases stack with _ | ⟨_ | _ | _, stack⟩
  · cases h
  · cases h
  · rw [length_of_complete h, List.length_cons]
  · cases h

theorem length_of_push {frame : Frame} {expected : Expected} {stack : List Frame} {next : State}
    (h : push frame expected stack = some next) : next.stack.length = stack.length + 1 := by
  unfold push at h
  split at h
  · cases h
    rfl
  · cases h

theorem length_of_value {t : Token} {stack : List Frame} {next : State}
    (h : value stack t = some next) :
    t.closes = false ∧ next.stack.length = stack.length + (if t.opens then 1 else 0) := by
  cases t with
  | null | bool b | number n | string s => exact ⟨rfl, length_of_complete h⟩
  | openArray | openObject => exact ⟨rfl, length_of_push h⟩
  | closeArray | closeObject | comma | colon => cases h

theorem length_of_key {t : Token} {stack : List Frame} {next : State}
    (h : key stack t = some next) :
    t.closes = false ∧ next.stack.length = stack.length + (if t.opens then 1 else 0) := by
  unfold key at h
  split at h
  · cases h
    exact ⟨rfl, rfl⟩
  · cases h

/-- What a token opens and closes is what it adds to the stack and takes off it. -/
theorem length_of_step {t : Token} {state next : State} (h : step t state = some next) :
    next.stack.length + (if t.closes then 1 else 0)
      = state.stack.length + (if t.opens then 1 else 0) := by
  obtain ⟨stack, expected⟩ := state
  cases move_of_step h with
  | value hvalue | firstValue _ hvalue =>
      rw [(length_of_value hvalue).1]
      exact (length_of_value hvalue).2
  | key hkey | firstKey _ hkey =>
      rw [(length_of_key hkey).1]
      exact (length_of_key hkey).2
  | emptyArray ht hclose | endArray ht _ hclose =>
      rw [ht]
      exact length_of_closeArray hclose
  | emptyObject ht hclose | endObject ht _ hclose =>
      rw [ht]
      exact length_of_closeObject hclose
  | colon ht hnext | nextValue ht _ hnext | nextKey ht _ hnext =>
      rw [ht, hnext]
      rfl

/-- Nothing is open when nothing may follow. -/
def State.Closed (state : State) : Prop := ∀ v, state.expected = .nothing v → state.stack = []

theorem closed_of_complete {v : Json} {stack : List Frame} {next : State}
    (h : complete v stack = some next) : next.Closed := by
  rcases stack with _ | ⟨_ | _ | _, stack⟩ <;> cases h <;> intro w hw <;> first | rfl | cases hw

theorem closed_of_push {frame : Frame} {expected : Expected} {stack : List Frame} {next : State}
    (hexpected : ∀ v, expected ≠ .nothing v) (h : push frame expected stack = some next) :
    next.Closed := by
  unfold push at h
  split at h
  · cases h
    exact fun v hv => absurd hv (hexpected v)
  · cases h

theorem closed_of_step {t : Token} {state next : State} (h : step t state = some next) :
    next.Closed := by
  obtain ⟨stack, expected⟩ := state
  cases move_of_step h with
  | value hvalue | firstValue _ hvalue =>
      cases t with
      | null | bool b | number n | string s => exact closed_of_complete hvalue
      | openArray | openObject => exact closed_of_push (fun _ h => by cases h) hvalue
      | closeArray | closeObject | comma | colon => cases hvalue
  | key hkey | firstKey _ hkey =>
      unfold key at hkey
      split at hkey
      · cases hkey
        exact fun v hv => by cases hv
      · cases hkey
  | emptyArray _ hclose | endArray _ _ hclose =>
      rcases stack with _ | ⟨_ | _ | _, stack⟩
      · cases hclose
      · exact closed_of_complete hclose
      · cases hclose
      · cases hclose
  | emptyObject _ hclose | endObject _ _ hclose =>
      rcases stack with _ | ⟨_ | _ | _, stack⟩
      · cases hclose
      · cases hclose
      · exact closed_of_complete hclose
      · cases hclose
  | colon _ hnext | nextValue _ _ hnext | nextKey _ _ hnext =>
      rw [hnext]
      exact fun v hv => by cases hv

theorem closed_of_run {T : List Token} {state last : State} (hstate : state.Closed)
    (h : run T state = some last) : last.Closed := by
  induction T generalizing state with
  | nil =>
      cases Option.some.inj h
      exact hstate
  | cons t T ih =>
      obtain ⟨next, ht, hT⟩ := run_cons_eq_some_iff.1 h
      exact ih (closed_of_step ht) hT

/-- Without room nothing is opened. -/
theorem step_inside_of_full {t : Token} {state next : State} (ht : t.opens = true)
    (hfull : nestingLimit ≤ state.stack.length + base.length) (h : step t state = some next) :
    (state.inside base).bind (step t) = none := by
  obtain ⟨stack, expected⟩ := state
  have hpush (frame : Frame) (expected : Expected) :
      push frame expected (stack ++ base) = none := by
    unfold push
    rw [List.length_append]
    exact if_neg (Nat.not_lt.2 hfull)
  have hvalue : value (stack ++ base) t = none := by
    cases t with
    | openArray | openObject => exact hpush _ _
    | closeArray | closeObject | comma | colon | null | bool b | number n | string s => cases ht
  cases move_of_step h with
  | value => exact hvalue
  | firstValue hne => exact (if_neg hne).trans hvalue
  | key hkey | firstKey _ hkey =>
      unfold key at hkey
      split at hkey
      · cases ht
      · cases hkey
  | emptyArray hother | emptyObject hother | colon hother | nextValue hother | nextKey hother
    | endArray hother | endObject hother =>
      rw [hother] at ht
      cases ht

/-- **A run inside of others** comes where it comes on its own, if the others leave room. -/
theorem run_inside {T : List Token} {state : State} {v : Json}
    (h : run T state = some ⟨[], .nothing v⟩)
    (hbase : state.stack.length + base.length ≤ nestingLimit) :
    (state.inside base).bind (run T)
      = if nesting T + state.stack.length + base.length ≤ nestingLimit then complete v base
        else none := by
  induction T generalizing state with
  | nil =>
      cases Option.some.inj h
      rw [nesting, List.length_nil, if_pos (by rwa [List.length_nil] at hbase)]
      exact Option.bind_fun_some _
  | cons t T ih =>
      obtain ⟨next, ht, hT⟩ := run_cons_eq_some_iff.1 h
      have hlength := length_of_step ht
      have hrun : (state.inside base).bind (run (t :: T))
          = ((state.inside base).bind (step t)).bind (run T) := by
        rw [Option.bind_assoc]
        rfl
      rw [hrun, nesting]
      by_cases hopens : t.opens = true
      · have hcloses : t.closes = false := by cases t <;> first | rfl | cases hopens
        rw [if_pos hopens, hcloses, if_neg Bool.false_ne_true] at hlength
        rw [if_pos hopens]
        -- this is the only kind of token that a full stack refuses
        rcases Nat.lt_or_ge (state.stack.length + base.length) nestingLimit with hroom | hfull
        · rw [step_inside (fun _ => hroom) ht, ih hT (by omega)]
          exact if_congr (by omega) rfl rfl
        · rw [step_inside_of_full hopens hfull ht, if_neg (by omega)]
          rfl
      · rw [if_neg hopens] at hlength ⊢
        rw [step_inside (fun h => absurd h hopens) ht]
        split at hlength
        · -- a bracket that closes leaves room again
          next hcloses =>
          rw [if_pos hcloses, ih hT (by omega)]
          exact if_congr (by omega) rfl rfl
        · next hcloses =>
          rw [if_neg hcloses, ih hT (by omega)]
          exact if_congr (by omega) rfl rfl

end Reader

/-! ## Composing values -/

/-- The first token is none that ends an array or an object. -/
def Begins (T : List Token) : Prop := ∃ t U, T = t :: U ∧ t.closes = false

theorem Begins.append {T : List Token} (h : Begins T) (U : List Token) : Begins (T ++ U) := by
  obtain ⟨t, T, rfl, ht⟩ := h
  exact ⟨t, T ++ U, rfl, ht⟩

theorem Begins.run_valueOrEnd {T : List Token} (h : Begins T) (stack : List Frame) :
    run T ⟨stack, .valueOrEnd⟩ = run T ⟨stack, .value⟩ := by
  obtain ⟨t, U, rfl, ht⟩ := h
  have hne : t ≠ .closeArray := by
    rintro rfl
    cases ht
  have hstep : step t ⟨stack, .valueOrEnd⟩ = step t ⟨stack, .value⟩ := if_neg hne
  rw [run_cons, run_cons, hstep]

theorem Begins.run_keyOrEnd {T : List Token} (h : Begins T) (stack : List Frame) :
    run T ⟨stack, .keyOrEnd⟩ = run T ⟨stack, .key⟩ := by
  obtain ⟨t, U, rfl, ht⟩ := h
  have hne : t ≠ .closeObject := by
    rintro rfl
    cases ht
  have hstep : step t ⟨stack, .keyOrEnd⟩ = step t ⟨stack, .key⟩ := if_neg hne
  rw [run_cons, run_cons, hstep]

/-- The tokens are read as a value wherever a value may come and `n` more arrays and objects may be
opened. -/
structure Reads (n : Nat) (T : List Token) (v : Json) : Prop where
  begins : Begins T
  run_eq : ∀ stack, stack.length ≤ nestingLimit →
    run T ⟨stack, .value⟩ = if n + stack.length ≤ nestingLimit then complete v stack else none

theorem begins_of_ofTokens? {T : List Token} {v : Json} (h : ofTokens? T = some v) : Begins T := by
  cases T with
  | nil => cases h
  | cons t U =>
      cases t with
      | closeArray | closeObject => cases h
      | openArray | openObject | comma | colon | null | bool b | number n | string s =>
          exact ⟨_, U, rfl, rfl⟩

/-- **A value is read alike inside of others.** -/
theorem Reads.of_ofTokens? {T : List Token} {v : Json} (h : ofTokens? T = some v) :
    Reads (nesting T) T v := by
  refine ⟨begins_of_ofTokens? h, fun stack hstack => ?_⟩
  obtain ⟨last, hrun⟩ := ofTokens?_eq_some_iff.1 h
  have hlast : last = [] := closed_of_run (fun _ hv => by cases hv) hrun v rfl
  subst hlast
  exact run_inside hrun (by rwa [List.length_nil, Nat.zero_add])

theorem Reads.ofTokens?_eq {n : Nat} {T : List Token} {v : Json} (h : Reads n T v) :
    ofTokens? T = if n ≤ nestingLimit then some v else none := by
  have hrun := h.run_eq [] (Nat.zero_le _)
  rw [List.length_nil, Nat.add_zero] at hrun
  unfold ofTokens?
  rw [hrun]
  by_cases hn : n ≤ nestingLimit
  · rw [if_pos hn, if_pos hn]
    rfl
  · rw [if_neg hn, if_neg hn]

theorem Reads.atom {t : Token} {v : Json} (hcloses : t.closes = false)
    (h : ∀ stack, value stack t = complete v stack) : Reads 0 [t] v := by
  refine ⟨⟨t, [], rfl, hcloses⟩, fun stack hstack => ?_⟩
  rw [Nat.zero_add, if_pos hstack, ← h stack]
  exact Option.bind_fun_some _

/-! ### Arrays -/

theorem reads_emptyArray : Reads 1 [.openArray, .closeArray] (.array []) := by
  refine ⟨⟨.openArray, [.closeArray], rfl, rfl⟩, fun stack _ => ?_⟩
  rw [run_cons, step, value, push]
  by_cases hroom : stack.length < nestingLimit
  · rw [if_pos hroom, if_pos (by omega)]
    exact Option.bind_fun_some _
  · rw [if_neg hroom, if_neg (by omega)]
    rfl

/-- Items with commas between them, each of them read as a value. -/
structure ReadsItems (n : Nat) (T : List Token) (vs : List Json) : Prop where
  begins : Begins T
  run_eq : ∀ items stack, stack.length < nestingLimit →
    run T ⟨.array items :: stack, .value⟩
      = if n + (stack.length + 1) ≤ nestingLimit then
          some ⟨.array (vs.reverse ++ items) :: stack, .separator⟩
        else none

theorem ReadsItems.one {n : Nat} {T : List Token} {v : Json} (h : Reads n T v) :
    ReadsItems n T [v] :=
  ⟨h.begins, fun items stack hstack => h.run_eq (.array items :: stack) hstack⟩

theorem ReadsItems.more {m n : Nat} {T U : List Token} {v : Json} {vs : List Json}
    (h : Reads m T v) (hs : ReadsItems n U vs) :
    ReadsItems (max m n) (T ++ .comma :: U) (v :: vs) := by
  refine ⟨h.begins.append _, fun items stack hstack => ?_⟩
  rw [run_append, h.run_eq (.array items :: stack) hstack, List.length_cons]
  by_cases hm : m + (stack.length + 1) ≤ nestingLimit
  · have hcomma : run (.comma :: U) ⟨.array (v :: items) :: stack, .separator⟩
        = run U ⟨.array (v :: items) :: stack, .value⟩ := rfl
    rw [if_pos hm, complete, Option.bind_some, hcomma, hs.run_eq (v :: items) stack hstack,
      List.reverse_cons, List.append_assoc]
    exact if_congr (by omega) rfl rfl
  · rw [if_neg hm, if_neg (by omega)]
    rfl

/-- **Items in square brackets** are read as an array. -/
theorem ReadsItems.array {n : Nat} {T : List Token} {vs : List Json} (h : ReadsItems n T vs) :
    Reads (n + 1) (.openArray :: (T ++ [.closeArray])) (.array vs) := by
  refine ⟨⟨.openArray, _, rfl, rfl⟩, fun stack _ => ?_⟩
  rw [run_cons, step, value, push]
  by_cases hroom : stack.length < nestingLimit
  · rw [if_pos hroom, Option.bind_some, run_append, h.begins.run_valueOrEnd,
      h.run_eq [] stack hroom]
    by_cases hn : n + (stack.length + 1) ≤ nestingLimit
    · have hclose : run [.closeArray] ⟨.array (vs.reverse ++ []) :: stack, .separator⟩
          = complete (.array vs) stack := by
        rw [List.append_nil, ← List.reverse_reverse vs, List.reverse_reverse]
        exact Option.bind_fun_some _
      rw [if_pos hn, if_pos (by omega), Option.bind_some, hclose]
    · rw [if_neg hn, if_neg (by omega)]
      rfl
  · rw [if_neg hroom, if_neg (by omega)]
    rfl

/-- Lists of tokens with commas between them. -/
def joinTokens : List (List Token) → List Token
  | [] => []
  | [T] => T
  | T :: Ts => T ++ .comma :: joinTokens Ts

theorem joinTokens_more (T U : List Token) (Ts : List (List Token)) :
    joinTokens (T :: U :: Ts) = T ++ .comma :: joinTokens (U :: Ts) := rfl

/-- How many arrays and objects the widest of some lists of tokens opens at a time. -/
def widest (Ts : List (List Token)) : Nat := Ts.foldr (fun T n => max (nesting T) n) 0

theorem widest_lt_iff {Ts : List (List Token)} {n : Nat} (hn : 0 < n) :
    widest Ts < n ↔ ∀ T ∈ Ts, nesting T < n := by
  induction Ts with
  | nil => exact iff_of_true hn (List.forall_mem_nil _)
  | cons T Ts ih =>
      rw [List.forall_mem_cons, ← ih]
      exact Nat.max_lt

theorem ReadsItems.of_ofTokens? {Ts : List (List Token)} {vs : List Json} (hne : Ts ≠ [])
    (h : List.Forall₂ (fun T v => ofTokens? T = some v) Ts vs) :
    ReadsItems (widest Ts) (joinTokens Ts) vs := by
  induction h with
  | nil => exact absurd rfl hne
  | @cons T v Ts vs hT hTs ih =>
      have hreads := Reads.of_ofTokens? hT
      cases hTs with
      | nil =>
          have hwidest : widest [T] = nesting T := Nat.max_zero _
          rw [hwidest]
          exact .one hreads
      | cons hU hUs => exact .more hreads (ih (List.cons_ne_nil _ _))

/-- **Values in square brackets** are an array, if there is room for one bracket more. -/
theorem ofTokens?_join {Ts : List (List Token)} {vs : List Json} (hne : Ts ≠ [])
    (h : List.Forall₂ (fun T v => ofTokens? T = some v) Ts vs) :
    ofTokens? (.openArray :: (joinTokens Ts ++ [.closeArray]))
      = if ∀ T ∈ Ts, nesting T < nestingLimit then some (.array vs) else none := by
  rw [(ReadsItems.of_ofTokens? hne h).array.ofTokens?_eq]
  exact if_congr (widest_lt_iff (by decide)) rfl rfl

/-! ### Objects -/

theorem reads_emptyObject : Reads 1 [.openObject, .closeObject] (.object []) := by
  refine ⟨⟨.openObject, [.closeObject], rfl, rfl⟩, fun stack _ => ?_⟩
  rw [run_cons, step, value, push]
  by_cases hroom : stack.length < nestingLimit
  · rw [if_pos hroom, if_pos (by omega)]
    exact Option.bind_fun_some _
  · rw [if_neg hroom, if_neg (by omega)]
    rfl

/-- The members that an object has after some more were read. -/
def insertAll (members more : List (String × Json)) : List (String × Json) :=
  more.foldl (fun members e => Entries.insert e.1 e.2 members) members

/-- Members with commas between them, each of them a key, a colon and a value. -/
structure ReadsMembers (n : Nat) (T : List Token) (ps : List (String × Json)) : Prop where
  begins : Begins T
  run_eq : ∀ members stack, stack.length < nestingLimit →
    run T ⟨.object members :: stack, .key⟩
      = if n + (stack.length + 1) ≤ nestingLimit then
          some ⟨.object (insertAll members ps) :: stack, .separator⟩
        else none

theorem ReadsMembers.one {n : Nat} {T : List Token} {key : String} {v : Json} (h : Reads n T v) :
    ReadsMembers n (.string key :: .colon :: T) [(key, v)] :=
  ⟨⟨.string key, _, rfl, rfl⟩,
    fun members stack hstack => h.run_eq (.member members key :: stack) hstack⟩

theorem ReadsMembers.more {m n : Nat} {T U : List Token} {key : String} {v : Json}
    {ps : List (String × Json)} (h : Reads m T v) (hs : ReadsMembers n U ps) :
    ReadsMembers (max m n) (.string key :: .colon :: (T ++ .comma :: U)) ((key, v) :: ps) := by
  refine ⟨⟨.string key, _, rfl, rfl⟩, fun members stack hstack => ?_⟩
  have hkey : run (.string key :: .colon :: (T ++ .comma :: U)) ⟨.object members :: stack, .key⟩
      = run (T ++ .comma :: U) ⟨.member members key :: stack, .value⟩ := rfl
  rw [hkey, run_append, h.run_eq (.member members key :: stack) hstack, List.length_cons]
  by_cases hm : m + (stack.length + 1) ≤ nestingLimit
  · have hcomma : run (.comma :: U)
          ⟨.object (Entries.insert key v members) :: stack, .separator⟩
        = run U ⟨.object (Entries.insert key v members) :: stack, .key⟩ := rfl
    rw [if_pos hm, complete, Option.bind_some, hcomma, hs.run_eq _ stack hstack]
    exact if_congr (by omega) rfl rfl
  · rw [if_neg hm, if_neg (by omega)]
    rfl

/-- **Members in curly brackets** are read as an object. -/
theorem ReadsMembers.object {n : Nat} {T : List Token} {ps : List (String × Json)}
    (h : ReadsMembers n T ps) :
    Reads (n + 1) (.openObject :: (T ++ [.closeObject])) (.object (Entries.ofList ps)) := by
  refine ⟨⟨.openObject, _, rfl, rfl⟩, fun stack _ => ?_⟩
  rw [run_cons, step, value, push]
  by_cases hroom : stack.length < nestingLimit
  · rw [if_pos hroom, Option.bind_some, run_append, h.begins.run_keyOrEnd, h.run_eq [] stack hroom]
    by_cases hn : n + (stack.length + 1) ≤ nestingLimit
    · rw [if_pos hn, if_pos (by omega), Option.bind_some]
      exact Option.bind_fun_some _
    · rw [if_neg hn, if_neg (by omega)]
      rfl
  · rw [if_neg hroom, if_neg (by omega)]
    rfl

end Switchboard.Json

import Mathlib.Algebra.Order.Group.Multiset
import Switchboard.Proofs.Json.Control

/-!
# The strings of a value

A text may hold more than its value. In an object a member that comes later overwrites one of the
same key, and then the key and all that was in the member are gone; nothing else is ever lost, and
nothing is made up. So the strings of a value, keys included and each as often as it occurs, are
among those of the text (`strings_le_of_ofTokens?`), and where no member is overwritten they are
all of them.
-/

namespace Switchboard.Json

mutual

/-- The strings in a value, keys included. -/
def strings : Json → Multiset String
  | .null => 0
  | .bool _ => 0
  | .number _ => 0
  | .string s => {s}
  | .array items => stringsItems items
  | .object members => stringsMembers members

/-- The strings in items. -/
def stringsItems : List Json → Multiset String
  | [] => 0
  | item :: items => item.strings + stringsItems items

/-- The strings in members. -/
def stringsMembers : List (String × Json) → Multiset String
  | [] => 0
  | (key, value) :: members => {key} + value.strings + stringsMembers members

end

theorem stringsItems_eq_sum (items : List Json) : stringsItems items = (items.map strings).sum := by
  induction items with
  | nil => rfl
  | cons item items ih => rw [stringsItems, ih, List.map_cons, List.sum_cons]

theorem stringsItems_reverse (items : List Json) :
    stringsItems items.reverse = stringsItems items := by
  rw [stringsItems_eq_sum, stringsItems_eq_sum, List.map_reverse, List.sum_reverse]

/-- A member that is written may overwrite another. -/
theorem stringsMembers_insert_le (members : Entries Json) (key : String) (value : Json) :
    stringsMembers (Entries.insert key value members)
      ≤ {key} + value.strings + stringsMembers members := by
  induction members with
  | nil => exact le_refl _
  | cons member members ih =>
      obtain ⟨other, old⟩ := member
      rw [Entries.insert]
      split
      · exact le_refl _
      · split
        · rw [stringsMembers, stringsMembers]
          exact add_le_add_right (Multiset.le_add_left _ _) _
        · rw [stringsMembers, stringsMembers, add_left_comm]
          exact add_le_add_right ih _

/-- The string that a token is. -/
def Token.strings : Token → Multiset String
  | .string s => {s}
  | _ => 0

/-- The strings among tokens. -/
def stringsOf (T : List Token) : Multiset String := (T.map Token.strings).sum

theorem stringsOf_cons (t : Token) (T : List Token) :
    stringsOf (t :: T) = t.strings + stringsOf T := List.sum_cons

namespace Reader

/-- The strings that were read into a frame. -/
def Frame.strings : Frame → Multiset String
  | .array items => stringsItems items
  | .object members => stringsMembers members
  | .member members key => {key} + stringsMembers members

/-- The strings of a value that is complete. -/
def Expected.strings : Expected → Multiset String
  | .nothing v => v.strings
  | _ => 0

/-- The strings that were read into open arrays and objects. -/
def held (stack : List Frame) : Multiset String := (stack.map Frame.strings).sum

theorem held_cons (frame : Frame) (stack : List Frame) :
    held (frame :: stack) = frame.strings + held stack := List.sum_cons

/-- The strings that were read so far and not overwritten. -/
def State.strings (state : State) : Multiset String := held state.stack + state.expected.strings

theorem strings_of_waiting (stack : List Frame) {expected : Expected}
    (h : expected.strings = 0) : State.strings ⟨stack, expected⟩ = held stack := by
  rw [State.strings, h, add_zero]

theorem strings_of_complete {v : Json} {stack : List Frame} {next : State}
    (h : complete v stack = some next) : next.strings ≤ v.strings + held stack := by
  -- the value is the text's, or the next item of an array, or goes under the key of a member
  rcases stack with _ | ⟨items | members | ⟨members, key⟩, stack⟩ <;> cases h
  · rw [State.strings, add_comm]
    exact le_refl _
  · rw [strings_of_waiting _ rfl, held_cons, held_cons, Frame.strings, Frame.strings, stringsItems,
      add_assoc]
  · rw [strings_of_waiting _ rfl, held_cons, held_cons, Frame.strings, Frame.strings, ← add_assoc,
      ← add_assoc, add_comm v.strings]
    exact add_le_add_left (stringsMembers_insert_le members key v) _

theorem strings_of_push {frame : Frame} {expected : Expected} {stack : List Frame} {next : State}
    (hframe : frame.strings = 0) (hexpected : expected.strings = 0)
    (h : push frame expected stack = some next) : next.strings = held stack := by
  unfold push at h
  split at h
  · cases h
    rw [strings_of_waiting _ hexpected, held_cons, hframe, zero_add]
  · cases h

theorem strings_of_value {t : Token} {stack : List Frame} {next : State}
    (h : value stack t = some next) : next.strings ≤ t.strings + held stack := by
  cases t with
  | null | bool b | number n | string s => exact strings_of_complete h
  | openArray | openObject =>
      rw [strings_of_push rfl rfl h]
      exact Multiset.le_add_left _ _
  | closeArray | closeObject | comma | colon => cases h

theorem strings_of_key {t : Token} {stack : List Frame} {next : State}
    (h : key stack t = some next) : next.strings ≤ t.strings + held stack := by
  unfold key at h
  split at h
  · cases h
    rw [strings_of_waiting _ rfl, held_cons, held_cons, Frame.strings, Frame.strings, add_assoc]
    exact le_refl _
  · cases h

theorem strings_of_closeArray {stack : List Frame} {next : State}
    (h : closeArray stack = some next) : next.strings ≤ held stack := by
  rcases stack with _ | ⟨items | members | ⟨members, key⟩, stack⟩
  · cases h
  · rw [held_cons, Frame.strings, ← stringsItems_reverse]
    exact strings_of_complete h
  · cases h
  · cases h

theorem strings_of_closeObject {stack : List Frame} {next : State}
    (h : closeObject stack = some next) : next.strings ≤ held stack := by
  rcases stack with _ | ⟨items | members | ⟨members, key⟩, stack⟩
  · cases h
  · cases h
  · rw [held_cons]
    exact strings_of_complete h
  · cases h

/-- **A token adds no string but its own.** -/
theorem strings_of_step {t : Token} {state next : State} (h : step t state = some next) :
    next.strings ≤ t.strings + state.strings := by
  obtain ⟨stack, expected⟩ := state
  have hclosed : next.strings ≤ held stack → next.strings ≤ t.strings + held stack :=
    fun h => h.trans (Multiset.le_add_left _ _)
  cases move_of_step h with
  | value hvalue | firstValue _ hvalue =>
      rw [strings_of_waiting stack rfl]
      exact strings_of_value hvalue
  | key hkey | firstKey _ hkey =>
      rw [strings_of_waiting stack rfl]
      exact strings_of_key hkey
  | emptyArray _ hclose | endArray _ _ hclose =>
      rw [strings_of_waiting stack rfl]
      exact hclosed (strings_of_closeArray hclose)
  | emptyObject _ hclose | endObject _ _ hclose =>
      rw [strings_of_waiting stack rfl]
      exact hclosed (strings_of_closeObject hclose)
  | colon _ hnext | nextValue _ _ hnext | nextKey _ _ hnext =>
      rw [hnext]
      exact Multiset.le_add_left _ _

theorem strings_of_run {T : List Token} {state last : State} (h : run T state = some last) :
    last.strings ≤ stringsOf T + state.strings := by
  induction T generalizing state with
  | nil =>
      cases Option.some.inj h
      exact Multiset.le_add_left _ _
  | cons t T ih =>
      obtain ⟨next, hstep, hrest⟩ := run_cons_eq_some_iff.1 h
      calc last.strings
          ≤ stringsOf T + next.strings := ih hrest
        _ ≤ stringsOf T + (t.strings + state.strings) :=
          add_le_add_right (strings_of_step hstep) _
        _ = stringsOf (t :: T) + state.strings := by
          rw [stringsOf_cons, ← add_assoc, add_comm (stringsOf T)]

end Reader

/-- **The strings of a value are those of its text**, except for what was overwritten. -/
theorem strings_le_of_ofTokens? {T : List Token} {v : Json} (h : ofTokens? T = some v) :
    v.strings ≤ stringsOf T := by
  obtain ⟨stack, hrun⟩ := ofTokens?_eq_some_iff.1 h
  calc v.strings
      ≤ Reader.held stack + v.strings := Multiset.le_add_left _ _
    _ ≤ stringsOf T + 0 := Reader.strings_of_run hrun
    _ = stringsOf T := add_zero _

/-- How many strings there are is a matter of the kinds of tokens. -/
theorem card_stringsOf_of_kind {T U : List Token} (h : T.map Token.kind = U.map Token.kind) :
    (stringsOf T).card = (stringsOf U).card := by
  have hcard (t : Token) : t.kind.strings.card = t.strings.card := by cases t <;> rfl
  have hkind (T : List Token) : (stringsOf T).card = (stringsOf (T.map Token.kind)).card := by
    induction T with
    | nil => rfl
    | cons t T ih =>
        rw [List.map_cons, stringsOf_cons, stringsOf_cons, Multiset.card_add, Multiset.card_add,
          hcard, ih]
  rw [hkind T, hkind U, h]

end Switchboard.Json

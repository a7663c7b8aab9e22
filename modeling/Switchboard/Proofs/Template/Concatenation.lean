import Switchboard.Proofs.Template.Grammar

/-!
# Templates put together

A template that can be filled in ends between two segments, so what stands behind it is scanned as
if it stood alone, braces or not. Filling in a text put together from two is then filling in the one
and the other (`render_append_eq`), and what is wrong with the second is what is wrong with the
whole.

The error of a template is the leftmost one. `Leftmost` says so without a word about segments: what
stands before the error can be filled in, and no more than that can. A text that stops at its first
character stops there however short it is cut (`Stops.cut`).
-/

namespace Switchboard.Template

/-- The error of a part of a template as one of the whole: a malformed template is named. -/
def ofWhole (template : String) : UsageError → UsageError
  | .malformedTemplate _ reason => .malformedTemplate template reason
  | error => error

/-- **Behind a template that can be filled in** another one means what it means by itself. -/
theorem render_append_eq {lookup : String → Option String} {a x : String}
    (ha : render a lookup = .ok x) (b : String) :
    render (a ++ b) lookup
      = match render b lookup with
        | .ok y => .ok (x ++ y)
        | .error error => .error (ofWhole (a ++ b) error) := by
  obtain ⟨segments, hspells, hfills⟩ := render_eq_ok_iff_spells.1 ha
  rw [render_eq (a ++ b), render_eq b, String.toList_append, scan_append hspells, fill_append,
    fill_eq_ok_iff.2 hfills]
  cases hfill : fill lookup (scan b.toList).1 with
  | error error =>
    obtain ⟨-, -, -, -, name, -, -, -, rfl⟩ := exists_lacks_of_fill hfill
    rfl
  | ok text =>
    simp only [Except.bind, Except.map]
    cases (scan b.toList).2 with
    | none => simp [String.ofList_append]
    | some fault => rfl

/-! ## The leftmost error -/

/-- Where the leftmost error of a template is: what stands before it can be filled in, and no
longer beginning of the template can. -/
structure Leftmost (lookup : String → Option String) (template before behind : String) : Prop where
  split : template = before ++ behind
  filled : ∃ text, render before lookup = .ok text
  longest : ∀ front rest, template = front ++ rest → before.length < front.length →
    ∀ text, render front lookup ≠ .ok text

theorem head?_ne_of_shorter {s t : List Char} {c : Char} (h : s <+: t) (ht : t.head? ≠ some c) :
    s.head? ≠ some c := by
  obtain ⟨u, rfl⟩ := h
  intro hs
  exact ht (by simp [hs])

/-- **What stops stops early**: cut off anywhere behind its first character, it stops as well. -/
theorem Stops.cut {lookup : String → Option String} {template : String} {q r : List Char}
    {error : UsageError} (h : Stops lookup template (q ++ r) error) (hq : q ≠ []) :
    ∃ error, Stops lookup (String.ofList q) q error := by
  obtain ⟨c, q, rfl⟩ := List.exists_cons_of_ne_nil hq
  generalize htext : (c :: q) ++ r = text at h
  cases h with
  | malformed hfault =>
    cases hfault with
    | unclosed hrest hhead =>
      obtain ⟨rfl, rfl⟩ := List.cons.inj htext
      exact ⟨_, .malformed (.unclosed (fun hmem => hrest (List.mem_append_left r hmem))
        (head?_ne_of_shorter (List.prefix_append q r) hhead))⟩
    | strayClose hhead =>
      obtain ⟨rfl, rfl⟩ := List.cons.inj htext
      exact ⟨_, .malformed (.strayClose (head?_ne_of_shorter (List.prefix_append q r) hhead))⟩
  | @missing inside front rest name hplace hlacks =>
    rcases List.append_eq_append_iff.1 htext with ⟨more, hfront, -⟩ | ⟨more, hq', -⟩
    · -- the cut is in the place, which then has no end, or right behind it
      rcases List.eq_nil_or_concat more with rfl | ⟨more, last, rfl⟩
      · rw [List.append_nil] at hfront
        rw [← hfront, ← List.append_nil front]
        exact ⟨_, .missing hplace hlacks⟩
      · cases hplace with
        | place hinside hhead =>
          obtain ⟨rfl, htail⟩ := List.cons.inj hfront
          have hinside' : inside = q ++ more := by
            have hsnoc : inside ++ ['}'] = (q ++ more) ++ [last] := by simpa using htail
            exact (List.append_inj' hsnoc rfl).1
          have hcut : q <+: inside := ⟨more, hinside'.symm⟩
          exact ⟨_, .malformed (.unclosed (fun hmem => hinside (hcut.subset hmem))
            (head?_ne_of_shorter hcut hhead))⟩
    · rw [hq']
      exact ⟨_, .missing hplace hlacks⟩

theorem render_of_stops {lookup : String → Option String} {template : String} {error : UsageError}
    (h : Stops lookup template template.toList error) :
    render template lookup = .error error :=
  render_eq_error_iff_stops.2 ⟨[], [], [], template.toList, rfl, .nil, .nil, h⟩

/-- **The error of a template is the leftmost one**: it is the error of what stands behind the
longest beginning that can be filled in. -/
theorem exists_leftmost {lookup : String → Option String} {template : String} {error : UsageError}
    (h : render template lookup = .error error) :
    ∃ before behind error', Leftmost lookup template before behind
      ∧ render behind lookup = .error error' ∧ error = ofWhole template error' := by
  obtain ⟨segments, filled, front, rest, htemplate, hfront, hfilled, hstops⟩ :=
    render_eq_error_iff_stops.1 h
  have hsplit : template = String.ofList front ++ String.ofList rest := by
    rw [← String.ofList_append, ← htemplate, String.ofList_toList]
  have hbefore : render (String.ofList front) lookup = .ok (String.ofList filled) :=
    render_eq_ok_iff_spells.2 ⟨segments, by simpa using hfront, by simpa using hfilled⟩
  have hwhole := render_append_eq hbefore (String.ofList rest)
  rw [← hsplit, h] at hwhole
  refine ⟨String.ofList front, String.ofList rest, ?_⟩
  cases hbehind : render (String.ofList rest) lookup with
  | ok y =>
    rw [hbehind] at hwhole
    cases hwhole
  | error error' =>
    rw [hbehind] at hwhole
    refine ⟨error', ⟨hsplit, ⟨_, hbefore⟩, ?_⟩, rfl, Except.error.inj hwhole⟩
    intro longer last hcut hlength text htext
    -- a longer beginning goes on into the text that stops, and stops in it
    have hlists : front ++ rest = longer.toList ++ last.toList := by
      rw [← htemplate, hcut, String.toList_append]
    rcases List.append_eq_append_iff.1 hlists with ⟨q, hlonger, hrest⟩ | ⟨q, hshorter, -⟩
    · have hq : q ≠ [] := by
        rintro rfl
        rw [List.append_nil] at hlonger
        rw [← String.length_toList, ← String.length_toList, hlonger] at hlength
        simp at hlength
      rw [hrest] at hstops
      obtain ⟨error'', hq'⟩ := hstops.cut hq
      have hstop : render (String.ofList q) lookup = .error error'' :=
        render_of_stops (by simpa using hq')
      have hext := render_append_eq hbefore (String.ofList q)
      rw [← String.ofList_append, ← hlonger, String.ofList_toList, htext, hstop] at hext
      cases hext
    · have hle := congrArg List.length hshorter
      simp only [List.length_append, String.length_toList] at hle
      simp only [String.length_ofList] at hlength
      omega

/--
**Filling in goes from left to right and puts together.**

Behind a template that can be filled in, what another one is filled in to is put at the end, a place
of it without a value is missing in the whole, and what is malformed about it is malformed about the
whole, which is then named. So the error of the whole is the leftmost one.
-/
theorem render_append_leftmost {lookup : String → Option String} {a x : String}
    (ha : render a lookup = .ok x) (b : String) :
    (∀ y, render b lookup = .ok y → render (a ++ b) lookup = .ok (x ++ y))
      ∧ (∀ field, render b lookup = .error (.missingTemplateField field) →
        render (a ++ b) lookup = .error (.missingTemplateField field))
      ∧ (∀ template reason, render b lookup = .error (.malformedTemplate template reason) →
        render (a ++ b) lookup = .error (.malformedTemplate (a ++ b) reason))
      ∧ ∀ error, render (a ++ b) lookup = .error error →
        ∃ before behind error', Leftmost lookup (a ++ b) before behind
          ∧ render behind lookup = .error error' ∧ error = ofWhole (a ++ b) error' := by
  have heq := render_append_eq ha b
  refine ⟨?_, ?_, ?_, fun error herror => exists_leftmost herror⟩
  · intro y hb
    rw [heq, hb]
  · intro field hb
    rw [heq, hb]
    rfl
  · intro template reason hb
    rw [heq, hb]
    rfl

/-- A brace behind two braces: the pair is taken as it stands in front. -/
theorem render_append_leftmost_seam :
    render "a\x7d\x7d" (fun _ => none) = .ok "a\x7d"
      ∧ render ("a\x7d\x7d" ++ "\x7d") (fun _ => none)
        = .error (.malformedTemplate "a\x7d\x7d\x7d" "single '\x7d' encountered") := by
  have ha : render "a\x7d\x7d" (fun _ => none) = .ok "a\x7d" := rfl
  have hb : render "\x7d" (fun _ => none)
      = .error (.malformedTemplate "\x7d" "single '\x7d' encountered") := rfl
  exact ⟨ha, (render_append_leftmost ha "\x7d").2.2.1 _ _ hb⟩

end Switchboard.Template

import Switchboard.Template

/-!
# The grammar of templates

A template is segments in a row: characters that are no braces, either brace written twice, and
places. `Spells` says which texts these are, `Fills` what is made of their segments, and
`render_spelled` that filling in a template succeeds on exactly these texts, with that result.

The scanner never goes back, so at each point the text must decide what comes next. It does: a text
that is not at its end begins with a segment or with a fault (`begins_cases`), and it is the scanner
that finds out which (`scan_written`, `scan_faulty`). The characters of a place are the only ones
it does not decide on one by one, and no such character is a closing brace.
-/

namespace Switchboard.Template

/-! ## How segments are written -/

/-- The text of one segment. -/
inductive Written : Segment → List Char → Prop where
  | char {c : Char} : c ≠ '{' → c ≠ '}' → Written (.char c) [c]
  | openBrace : Written (.char '{') ['{', '{']
  | closeBrace : Written (.char '}') ['}', '}']
  /-- What stands in the braces has no closing brace and does not begin with an opening one. -/
  | place {inside : List Char} : '}' ∉ inside → inside.head? ≠ some '{' →
      Written (.place inside) ('{' :: (inside ++ ['}']))

/-- The text of segments in a row. -/
inductive Spells : List Segment → List Char → Prop where
  | nil : Spells [] []
  | cons {segment : Segment} {segments : List Segment} {front rest : List Char} :
      Written segment front → Spells segments rest → Spells (segment :: segments) (front ++ rest)

/-- A text that begins with what is no segment. -/
inductive Faulty : Fault → List Char → Prop where
  /-- A brace that opens a place without an end. -/
  | unclosed {rest : List Char} : '}' ∉ rest → rest.head? ≠ some '{' →
      Faulty .unclosed ('{' :: rest)
  /-- A closing brace that is not written twice. -/
  | strayClose {rest : List Char} : rest.head? ≠ some '}' → Faulty .strayClose ('}' :: rest)

theorem Written.ne_nil {segment : Segment} {front : List Char} (h : Written segment front) :
    front ≠ [] := by
  cases h <;> simp

/-- **How a text begins**: with a segment, with a fault, or not at all. -/
theorem begins_cases (s : List Char) :
    s = [] ∨ (∃ segment front rest, s = front ++ rest ∧ Written segment front)
      ∨ ∃ fault, Faulty fault s := by
  rcases s with _ | ⟨c, s⟩
  · exact Or.inl rfl
  right
  by_cases hopen : c = '{'
  · subst hopen
    by_cases htwice : s.head? = some '{'
    · obtain ⟨s, rfl⟩ := List.head?_eq_some_iff.1 htwice
      exact Or.inl ⟨_, _, s, rfl, .openBrace⟩
    · by_cases hclose : '}' ∈ s
      · -- the place ends at the first brace that closes
        obtain ⟨inside, rest, rfl, hinside⟩ := List.eq_append_cons_of_mem hclose
        refine Or.inl ⟨_, '{' :: (inside ++ ['}']), rest, by simp, .place hinside ?_⟩
        intro hhead
        exact htwice (by simp [hhead])
      · exact Or.inr ⟨_, .unclosed hclose htwice⟩
  · by_cases hclose : c = '}'
    · subst hclose
      by_cases htwice : s.head? = some '}'
      · obtain ⟨s, rfl⟩ := List.head?_eq_some_iff.1 htwice
        exact Or.inl ⟨_, _, s, rfl, .closeBrace⟩
      · exact Or.inr ⟨_, .strayClose htwice⟩
    · exact Or.inl ⟨_, [c], s, rfl, .char hopen hclose⟩

/-! ## What the scanner finds -/

theorem scanFrom_inside {inside : List Char} (h : '}' ∉ inside) (text rest : List Char) :
    scanFrom (.inside text) (inside ++ '}' :: rest)
      = consSegment (.place (text.reverse ++ inside)) (scan rest) := by
  induction inside generalizing text with
  | nil => simp [scanFrom, scan]
  | cons c inside ih =>
    simp only [List.mem_cons, not_or] at h
    simp [scanFrom, Ne.symm h.1, ih h.2]

theorem scanFrom_inside_of_unclosed {inside : List Char} (h : '}' ∉ inside) (text : List Char) :
    scanFrom (.inside text) inside = ([], some .unclosed) := by
  induction inside generalizing text with
  | nil => rfl
  | cons c inside ih =>
    simp only [List.mem_cons, not_or] at h
    simp [scanFrom, Ne.symm h.1, ih h.2]

theorem scan_open (s : List Char) : scan ('{' :: s) = scanFrom .opened s := by
  simp [scan, scanFrom]

theorem scan_close (s : List Char) : scan ('}' :: s) = scanFrom .closed s := by
  simp [scan, scanFrom]

/-- A segment in front of a text is scanned by itself, whatever the text is. -/
theorem scan_written {segment : Segment} {front : List Char} (h : Written segment front)
    (rest : List Char) : scan (front ++ rest) = consSegment segment (scan rest) := by
  cases h with
  | char hopen hclose => simp [scan, scanFrom, hopen, hclose]
  | openBrace => simp [scan, scanFrom]
  | closeBrace => simp [scan, scanFrom]
  | @place inside hinside hhead =>
    rw [List.cons_append, scan_open, List.append_assoc, List.singleton_append]
    rcases inside with _ | ⟨c, inside⟩
    · simp [scanFrom, scan]
    · have hopen : c ≠ '{' := by simpa using hhead
      simp only [List.mem_cons, not_or] at hinside
      simp [scanFrom, hopen, Ne.symm hinside.1, scanFrom_inside hinside.2]

theorem scan_faulty {fault : Fault} {s : List Char} (h : Faulty fault s) :
    scan s = ([], some fault) := by
  cases h with
  | @unclosed rest hrest hhead =>
    rw [scan_open]
    rcases rest with _ | ⟨c, rest⟩
    · rfl
    · have hopen : c ≠ '{' := by simpa using hhead
      simp only [List.mem_cons, not_or] at hrest
      simp [scanFrom, hopen, Ne.symm hrest.1, scanFrom_inside_of_unclosed hrest.2]
  | @strayClose rest hhead =>
    rw [scan_close]
    rcases rest with _ | ⟨c, rest⟩
    · rfl
    · have hclose : c ≠ '}' := by simpa using hhead
      simp [scanFrom, hclose]

/-- **Segments in front of a text** are scanned first, and the text as if it stood alone. -/
theorem scan_append {segments : List Segment} {front : List Char} (h : Spells segments front)
    (rest : List Char) :
    scan (front ++ rest) = (segments ++ (scan rest).1, (scan rest).2) := by
  induction h with
  | nil => rfl
  | cons hsegment _ ih => rw [List.append_assoc, scan_written hsegment, ih, consSegment]; rfl

/-- What ends a scan: the end of the text, or a fault. -/
def Ends (fault : Option Fault) (s : List Char) : Prop :=
  match fault with
  | none => s = []
  | some fault => Faulty fault s

/-- **What was scanned** is the segments of the text up to its end or its first fault. -/
theorem exists_scanned (s : List Char) :
    ∃ front rest, s = front ++ rest ∧ Spells (scan s).1 front ∧ Ends (scan s).2 rest := by
  induction hlength : s.length using Nat.strongRecOn generalizing s with
  | ind length ih =>
    rcases begins_cases s with rfl | ⟨segment, front, rest, rfl, hsegment⟩ | ⟨fault, hfault⟩
    · exact ⟨[], [], rfl, .nil, rfl⟩
    · have hpos := List.length_pos_iff.2 hsegment.ne_nil
      rw [List.length_append] at hlength
      obtain ⟨more, last, rfl, hmore, hlast⟩ := ih rest.length (by omega) rest rfl
      rw [scan_written hsegment]
      exact ⟨front ++ more, last, by rw [List.append_assoc], .cons hsegment hmore, hlast⟩
    · rw [scan_faulty hfault]
      exact ⟨[], s, rfl, .nil, hfault⟩

theorem scan_eq_iff_spells {segments : List Segment} {s : List Char} :
    scan s = (segments, none) ↔ Spells segments s := by
  constructor
  · intro h
    obtain ⟨front, rest, rfl, hfront, hrest⟩ := exists_scanned s
    rw [h] at hfront hrest
    subst hrest
    rwa [List.append_nil]
  · intro h
    have hscan := scan_append h []
    rw [List.append_nil] at hscan
    rw [hscan]
    simp [scan, scanFrom]

/-- **A text is taken apart in one way.** -/
theorem Spells.unique {segments segments' : List Segment} {s : List Char}
    (h : Spells segments s) (h' : Spells segments' s) : segments = segments' := by
  rw [← scan_eq_iff_spells] at h h'
  rw [h] at h'
  exact congrArg Prod.fst h'

/-! ## What segments are filled in to -/

/-- Whether a character ends the name in a place. -/
def endsName (c : Char) : Bool := c == ':' || c == '!'

/-- The name in a place: all that stands before the first colon or exclamation mark, without the
blanks around it. -/
inductive Names : List Char → String → Prop where
  | upTo {name rest : List Char} : (∀ c ∈ name, endsName c = false) →
      (∀ c ∈ rest.head?, endsName c = true) →
      Names (name ++ rest) (String.ofList (Text.trim name))

/-- What is made of segments where every place has a value. A value is not looked into. -/
inductive Fills (lookup : String → Option String) : List Segment → List Char → Prop where
  | nil : Fills lookup [] []
  | char {c : Char} {segments : List Segment} {text : List Char} :
      Fills lookup segments text → Fills lookup (.char c :: segments) (c :: text)
  | place {inside : List Char} {name value : String} {segments : List Segment}
      {text : List Char} : Names inside name → lookup name = some value →
      Fills lookup segments text → Fills lookup (.place inside :: segments) (value.toList ++ text)

theorem placeName_eq (inside : List Char) :
    placeName inside = Text.trim (inside.takeWhile fun c => !endsName c) := by
  have hends : (fun c => c != ':' && c != '!') = fun c => !endsName c := by
    funext c
    simp [endsName, bne]
  rw [placeName, hends]

/-- Every place has one name. -/
theorem names_iff {inside : List Char} {name : String} :
    Names inside name ↔ name = String.ofList (placeName inside) := by
  rw [placeName_eq]
  constructor
  · intro h
    cases h with
    | @upTo name rest hname hrest =>
      have hstop : rest.takeWhile (fun c => !endsName c) = [] := by
        cases rest with
        | nil => rfl
        | cons mark rest => simp [hrest mark rfl]
      rw [List.takeWhile_append_of_pos fun c hc => by simp [hname c hc], hstop, List.append_nil]
  · intro h
    have hname : ∀ c ∈ inside.takeWhile fun c => !endsName c, endsName c = false := by
      intro c hc
      simpa using List.all_eq_true.1 List.all_takeWhile c hc
    have hrest : ∀ c ∈ (inside.dropWhile fun c => !endsName c).head?, endsName c = true := by
      intro c hc
      have hfirst := List.head?_dropWhile_not (fun c => !endsName c) inside
      rw [hc] at hfirst
      simpa using hfirst
    have hnames := Names.upTo hname hrest
    rw [List.takeWhile_append_dropWhile] at hnames
    rwa [h]

/-- The text of a segment, if it has one. -/
def Segment.text? (lookup : String → Option String) : Segment → Option (List Char)
  | .char c => some [c]
  | .place inside => (lookup (String.ofList (placeName inside))).map String.toList

theorem fill_cons_eq_ok_iff {lookup : String → Option String} {segment : Segment}
    {segments : List Segment} {text : List Char} :
    fill lookup (segment :: segments) = .ok text
      ↔ ∃ front rest, segment.text? lookup = some front ∧ fill lookup segments = .ok rest
        ∧ text = front ++ rest := by
  cases segment with
  | char c =>
    rw [fill]
    cases fill lookup segments with
    | error error => simp [Segment.text?, Except.map]
    | ok rest => simp [Segment.text?, Except.map, eq_comm]
  | place inside =>
    rw [fill]
    cases hvalue : lookup (String.ofList (placeName inside)) with
    | none => simp [Segment.text?, hvalue]
    | some value =>
      cases fill lookup segments with
      | error error => simp [Except.map]
      | ok rest => simp [Segment.text?, Except.map, hvalue, eq_comm]

theorem fill_eq_ok_iff {lookup : String → Option String} {segments : List Segment}
    {text : List Char} : fill lookup segments = .ok text ↔ Fills lookup segments text := by
  induction segments generalizing text with
  | nil =>
    constructor
    · rintro ⟨⟩
      exact .nil
    · rintro ⟨⟩
      rfl
  | cons segment segments ih =>
    rw [fill_cons_eq_ok_iff]
    constructor
    · rintro ⟨front, rest, hfront, hrest, rfl⟩
      cases segment with
      | char c =>
        cases hfront
        exact .char (ih.1 hrest)
      | place inside =>
        obtain ⟨value, hvalue, rfl⟩ := Option.map_eq_some_iff.1 hfront
        exact .place (names_iff.2 rfl) hvalue (ih.1 hrest)
    · intro h
      cases h with
      | @char c _ text htext => exact ⟨[c], text, rfl, ih.2 htext, rfl⟩
      | @place inside name value _ text hname hvalue htext =>
        rw [names_iff.1 hname] at hvalue
        exact ⟨value.toList, text, by simp [Segment.text?, hvalue], ih.2 htext, rfl⟩

/-- Segments are filled in from left to right. -/
theorem fill_append (lookup : String → Option String) (segments more : List Segment) :
    fill lookup (segments ++ more)
      = (fill lookup segments).bind fun text => (fill lookup more).map (text ++ ·) := by
  induction segments with
  | nil =>
    rw [List.nil_append]
    cases fill lookup more <;> rfl
  | cons segment segments ih =>
    cases segment with
    | char c =>
      rw [List.cons_append, fill, fill, ih]
      cases fill lookup segments with
      | error error => rfl
      | ok text => cases fill lookup more <;> rfl
    | place inside =>
      rw [List.cons_append, fill, fill]
      cases lookup (String.ofList (placeName inside)) with
      | none => rfl
      | some value =>
        dsimp only
        rw [ih]
        cases fill lookup segments with
        | error error => rfl
        | ok text =>
          cases fill lookup more with
          | error error => rfl
          | ok more => simp [Except.map, Except.bind]

/-- A place whose name has no value. -/
def Lacks (lookup : String → Option String) (inside : List Char) (name : String) : Prop :=
  Names inside name ∧ lookup name = none

theorem fill_of_lacks {lookup : String → Option String} {inside : List Char} {name : String}
    (h : Lacks lookup inside name) (segments : List Segment) :
    fill lookup (.place inside :: segments) = .error (.missingTemplateField name) := by
  obtain ⟨hname, hvalue⟩ := h
  rw [names_iff.1 hname] at hvalue ⊢
  rw [fill]
  simp [hvalue]

/-- **Filling in fails** at the first place whose name has no value. -/
theorem exists_lacks_of_fill {lookup : String → Option String} {segments : List Segment}
    {error : UsageError} (h : fill lookup segments = .error error) :
    ∃ before inside after filled name, segments = before ++ .place inside :: after
      ∧ Fills lookup before filled ∧ Lacks lookup inside name
      ∧ error = .missingTemplateField name := by
  induction segments with
  | nil => cases h
  | cons segment segments ih =>
    cases segment with
    | char c =>
      rw [fill] at h
      cases hrest : fill lookup segments with
      | ok text => simp [hrest, Except.map] at h
      | error error' =>
        rw [hrest] at h
        cases h
        obtain ⟨before, inside, after, filled, name, rfl, hfilled, hlacks, rfl⟩ := ih hrest
        exact ⟨.char c :: before, inside, after, _, name, rfl, .char hfilled, hlacks, rfl⟩
    | place inside =>
      rw [fill] at h
      cases hvalue : lookup (String.ofList (placeName inside)) with
      | none =>
        rw [hvalue] at h
        cases h
        exact ⟨[], inside, segments, [], _, rfl, .nil, ⟨names_iff.2 rfl, hvalue⟩, rfl⟩
      | some value =>
        rw [hvalue] at h
        dsimp only at h
        cases hrest : fill lookup segments with
        | ok text => simp [hrest, Except.map] at h
        | error error' =>
          rw [hrest] at h
          cases h
          obtain ⟨before, inside', after, filled, name, rfl, hfilled, hlacks, rfl⟩ := ih hrest
          exact ⟨.place inside :: before, inside', after, _, name, rfl,
            .place (names_iff.2 rfl) hvalue hfilled, hlacks, rfl⟩

/-! ## Templates -/

theorem render_eq_ok_iff {template text : String} {lookup : String → Option String} :
    render template lookup = .ok text
      ↔ (scan template.toList).2 = none
        ∧ fill lookup (scan template.toList).1 = .ok text.toList := by
  unfold render
  dsimp only
  cases hfill : fill lookup (scan template.toList).1 with
  | error error =>
    constructor
    · rintro ⟨⟩
    · rintro ⟨-, ⟨⟩⟩
  | ok filled =>
    cases hfault : (scan template.toList).2 with
    | some fault =>
      constructor
      · rintro ⟨⟩
      · rintro ⟨⟨⟩, -⟩
    | none =>
      constructor
      · rintro ⟨⟩
        exact ⟨rfl, by rw [String.toList_ofList]⟩
      · rintro ⟨-, h⟩
        cases h
        change Except.ok (String.ofList text.toList) = _
        rw [String.ofList_toList]

theorem render_eq_ok_iff_spells {template text : String} {lookup : String → Option String} :
    render template lookup = .ok text
      ↔ ∃ segments, Spells segments template.toList ∧ Fills lookup segments text.toList := by
  rw [render_eq_ok_iff, fill_eq_ok_iff]
  constructor
  · rintro ⟨hfault, hfills⟩
    have hscan : scan template.toList = ((scan template.toList).1, none) := by
      rw [← hfault]
    exact ⟨_, scan_eq_iff_spells.1 hscan, hfills⟩
  · rintro ⟨segments, hspells, hfills⟩
    rw [scan_eq_iff_spells.2 hspells]
    exact ⟨rfl, hfills⟩

/-- A text of segments can be cut between any two of them. -/
theorem Spells.exists_cut {segments more : List Segment} {s : List Char}
    (h : Spells (segments ++ more) s) :
    ∃ front rest, s = front ++ rest ∧ Spells segments front ∧ Spells more rest := by
  induction segments generalizing s with
  | nil => exact ⟨[], s, rfl, .nil, h⟩
  | cons segment segments ih =>
    cases h with
    | @cons _ _ first s hfirst hs =>
      obtain ⟨front, rest, rfl, hfront, hrest⟩ := ih hs
      exact ⟨first ++ front, rest, by rw [List.append_assoc], .cons hfirst hfront, hrest⟩

/-- **Where a template ends that cannot be filled in**, and the error that it is: a place without a
value, or a fault. Only a fault names the template. -/
inductive Stops (lookup : String → Option String) (template : String) :
    List Char → UsageError → Prop where
  | missing {inside front rest : List Char} {name : String} : Written (.place inside) front →
      Lacks lookup inside name → Stops lookup template (front ++ rest) (.missingTemplateField name)
  | malformed {fault : Fault} {rest : List Char} : Faulty fault rest →
      Stops lookup template rest (.malformedTemplate template fault.reason)

/-- `render` by its two halves. -/
theorem render_eq (template : String) (lookup : String → Option String) :
    render template lookup
      = (fill lookup (scan template.toList).1).bind fun text =>
          match (scan template.toList).2 with
          | none => .ok (String.ofList text)
          | some fault => .error (.malformedTemplate template fault.reason) := rfl

/-- **A template fails where it stops**: what stands in front of that can be filled in, and nothing
behind it matters. -/
theorem render_eq_error_iff_stops {template : String} {lookup : String → Option String}
    {error : UsageError} :
    render template lookup = .error error
      ↔ ∃ segments filled front rest, template.toList = front ++ rest ∧ Spells segments front
          ∧ Fills lookup segments filled ∧ Stops lookup template rest error := by
  rw [render_eq]
  constructor
  · intro h
    obtain ⟨front, rest, htemplate, hfront, hrest⟩ := exists_scanned template.toList
    cases hfill : fill lookup (scan template.toList).1 with
    | error error' =>
      rw [hfill] at h
      cases h
      obtain ⟨before, inside, after, filled, name, hsegments, hfilled, hlacks, rfl⟩ :=
        exists_lacks_of_fill hfill
      rw [hsegments] at hfront
      obtain ⟨first, more, rfl, hfirst, hmore⟩ := hfront.exists_cut
      cases hmore with
      | @cons _ _ place last hplace _ =>
        refine ⟨before, filled, first, place ++ (last ++ rest), ?_, hfirst, hfilled,
          .missing hplace hlacks⟩
        rw [htemplate]
        simp only [List.append_assoc]
    | ok text =>
      rw [hfill] at h
      cases hfault : (scan template.toList).2 with
      | none =>
        rw [hfault] at h
        cases h
      | some fault =>
        rw [hfault] at h hrest
        cases h
        exact ⟨_, text, front, rest, htemplate, hfront, fill_eq_ok_iff.1 hfill, .malformed hrest⟩
  · rintro ⟨segments, filled, front, rest, htemplate, hfront, hfilled, hstops⟩
    rw [htemplate, scan_append hfront]
    cases hstops with
    | @missing inside place rest name hplace hlacks =>
      rw [scan_written hplace, consSegment, fill_append, fill_eq_ok_iff.2 hfilled,
        fill_of_lacks hlacks]
      rfl
    | malformed hfault =>
      rw [scan_faulty hfault, List.append_nil, fill_eq_ok_iff.2 hfilled]
      rfl

/--
**Templates are filled in by their grammar.**

A template can be filled in exactly if it is segments in a row and every place has a value, and then
the result is the characters of the segments and the values of the places, in order. It is segments
in a row in one way only. All other templates fail: at the first place without a value, or at the
first character that begins no segment.
-/
theorem render_spelled (template : String) (lookup : String → Option String) :
    (∀ text, render template lookup = .ok text
        ↔ ∃ segments, Spells segments template.toList ∧ Fills lookup segments text.toList)
      ∧ (∀ segments segments', Spells segments template.toList →
        Spells segments' template.toList → segments = segments')
      ∧ ∀ error, render template lookup = .error error
        ↔ ∃ segments filled front rest, template.toList = front ++ rest ∧ Spells segments front
            ∧ Fills lookup segments filled ∧ Stops lookup template rest error :=
  ⟨fun _ => render_eq_ok_iff_spells, fun _ _ => Spells.unique, fun _ => render_eq_error_iff_stops⟩

end Switchboard.Template

import Mathlib.Data.List.Induction
import Switchboard.Descriptor

/-!
# Descriptors by their declarations

A descriptor is built by declarations, in any order and number. Two kinds of them write the options,
and by opposite rules: of the values that an option is set to the last stays, of the help texts the
first, and a help text gives way to a value wherever that is set. The option that disables
autodetection is one of the options until the end, when it is taken out.

`Collects` is what a descriptor holds of its declarations so far, and every declaration keeps it.
`build_parts` says what this comes to in the end: each part of a descriptor depends on the
declarations of few kinds, so a declaration that sets no option may be moved past those of all other
kinds.
-/

namespace Switchboard

/-! ## What a declaration contributes -/

/-- The kinds of declarations. -/
inductive Declaration.Kind where
  | about
  | option
  | param
  | decorator
  | defaultOutput
  | skipAutodetect
  deriving DecidableEq, Repr

namespace Declaration

/-- The kind of a declaration. -/
def kind : Declaration → Kind
  | .about _ => .about
  | .option .. => .option
  | .param _ => .param
  | .decorator _ => .decorator
  | .defaultOutput _ => .defaultOutput
  | .skipAutodetect => .skipAutodetect

/-- The value that a declaration sets an option to. A help text sets none, it only stands in. -/
def value? (key : String) : Declaration → Option Json
  | .option other value => if other = key then some value else none
  | .skipAutodetect => if Descriptor.skipAutodetectOption = key then some (.bool true) else none
  | _ => none

/-- The help text of a declaration. -/
def about? : Declaration → Option String
  | .about text => some text
  | _ => none

/-- The value that stands in for an option. -/
def standIn? (key : String) (declaration : Declaration) : Option Json :=
  if Descriptor.helpOption = key then declaration.about?.map .string else none

/-- The parameter of a declaration. -/
def param? : Declaration → Option Param
  | .param p => some p
  | _ => none

/-- The decorator of a declaration. -/
def decorator? : Declaration → Option Layer
  | .decorator layer => some layer
  | _ => none

/-- The output strategy of a declaration. -/
def defaultOutput? : Declaration → Option Output
  | .defaultOutput output => some output
  | _ => none

variable {declaration : Declaration}

theorem value?_eq_none (h : declaration.kind ≠ .option) (h' : declaration.kind ≠ .skipAutodetect)
    (key : String) : declaration.value? key = none := by
  cases declaration with
  | option other value => exact absurd rfl h
  | skipAutodetect => exact absurd rfl h'
  | _ => rfl

theorem standIn?_eq_none (h : declaration.kind ≠ .about) (key : String) :
    declaration.standIn? key = none := by
  cases declaration with
  | about text => exact absurd rfl h
  | _ => exact ite_self none

theorem param?_eq_none (h : declaration.kind ≠ .param) : declaration.param? = none := by
  cases declaration with
  | param p => exact absurd rfl h
  | _ => rfl

theorem decorator?_eq_none (h : declaration.kind ≠ .decorator) :
    declaration.decorator? = none := by
  cases declaration with
  | decorator layer => exact absurd rfl h
  | _ => rfl

theorem defaultOutput?_eq_none (h : declaration.kind ≠ .defaultOutput) :
    declaration.defaultOutput? = none := by
  cases declaration with
  | defaultOutput output => exact absurd rfl h
  | _ => rfl

/-- What is collected of one kind is the same wherever a declaration of another kind stands. -/
theorem filterMap_move {α : Type} {f : Declaration → Option α} {kind : Kind}
    (hf : ∀ x : Declaration, x.kind ≠ kind → f x = none) {middle : List Declaration}
    (h : ∀ x ∈ middle, x.kind ≠ declaration.kind) (front back : List Declaration) :
    (front ++ declaration :: (middle ++ back)).filterMap f
      = (front ++ (middle ++ declaration :: back)).filterMap f := by
  by_cases hkind : declaration.kind = kind
  · -- nothing is collected of what it is moved past
    have hmiddle : middle.filterMap f = [] :=
      List.filterMap_eq_nil_iff.2 fun x hx => hf x (hkind ▸ h x hx)
    simp only [List.filterMap_append, List.filterMap_cons, hmiddle, List.nil_append]
  · simp only [List.filterMap_append, List.filterMap_cons, hf _ hkind]

end Declaration

/-! ## What one declaration changes -/

namespace Descriptor

open Declaration

variable {δ : Type} {name : String} {method : Rest δ} {declarations : List Declaration}
  {d : Descriptor δ}

theorem declare_name (d : Descriptor δ) (x : Declaration) : (d.declare x).name = d.name := by
  cases x with
  | about text => rw [declare]; split <;> rfl
  | _ => rfl

theorem declare_skipsAutodetect (d : Descriptor δ) (x : Declaration) :
    (d.declare x).skipsAutodetect = d.skipsAutodetect := by
  cases x with
  | about text => rw [declare]; split <;> rfl
  | _ => rfl

theorem declare_params (d : Descriptor δ) (x : Declaration) :
    (d.declare x).params = d.params ++ x.param?.toList := by
  cases x with
  | about text =>
    rw [declare]
    split <;> exact (List.append_nil _).symm
  | param p => rfl
  | _ => exact (List.append_nil _).symm

theorem declare_decorators (d : Descriptor δ) (x : Declaration) :
    (d.declare x).decorators = d.decorators ++ x.decorator?.toList := by
  cases x with
  | about text =>
    rw [declare]
    split <;> exact (List.append_nil _).symm
  | decorator layer => rfl
  | _ => exact (List.append_nil _).symm

theorem declare_defaultOutput (d : Descriptor δ) (x : Declaration) :
    (d.declare x).defaultOutput = x.defaultOutput?.or d.defaultOutput := by
  cases x with
  | about text => rw [declare]; split <;> rfl
  | _ => rfl

theorem sorted_declare (h : d.options.Sorted) (x : Declaration) :
    (d.declare x).options.Sorted := by
  cases x with
  | about text =>
    rw [declare]
    split
    · exact h
    · exact h.insert helpOption (.string text)
  | option key value => exact h.insert key value
  | skipAutodetect => exact h.insert skipAutodetectOption (.bool true)
  | _ => exact h

/-- Setting an option changes no other. -/
theorem get?_setOption (d : Descriptor δ) (option : String) (value : Json) (key : String) :
    Entries.get? key (d.setOption option value).options
      = (if option = key then some value else none).or (Entries.get? key d.options) := by
  rw [setOption, Entries.get?_insert]
  split <;> rfl

/-- **What an option is after a declaration**: the value that this sets it to, else what it was,
else what the declaration has to stand in. -/
theorem get?_declare (d : Descriptor δ) (x : Declaration) (key : String) :
    Entries.get? key (d.declare x).options
      = (x.value? key).or ((Entries.get? key d.options).or (x.standIn? key)) := by
  by_cases habout : x.kind = .about
  · cases x with
    | about text =>
      have hvalue : (about text).value? key = none := rfl
      rw [hvalue, Option.none_or, declare, standIn?]
      split
      · next hsome =>
        -- only the option that is there already would be written
        split
        · next hkey =>
          subst hkey
          obtain ⟨value, hvalue⟩ := Option.isSome_iff_exists.1 hsome
          rw [hvalue, Option.some_or]
        · rw [Option.or_none]
      · next hnone =>
        rw [get?_setOption]
        split
        · next hkey =>
          subst hkey
          rw [Option.not_isSome_iff_eq_none.1 hnone]
          rfl
        · rw [Option.none_or, Option.or_none]
    | _ => cases habout
  · rw [standIn?_eq_none habout, Option.or_none]
    cases x with
    | about text => exact absurd rfl habout
    | option other value => exact d.get?_setOption other value key
    | skipAutodetect => exact d.get?_setOption skipAutodetectOption (.bool true) key
    | _ => rfl

/-! ## What a descriptor holds of its declarations -/

/-- The value that an option is set to last. -/
def lastValue? (key : String) (declarations : List Declaration) : Option Json :=
  (declarations.filterMap (value? key)).getLast?

/-- The help text that is given first. -/
def firstAbout? (declarations : List Declaration) : Option String :=
  (declarations.filterMap about?).head?

/-- What a descriptor holds of the declarations so far. -/
structure Collects (name : String) (method : Rest δ) (declarations : List Declaration)
    (d : Descriptor δ) : Prop where
  name : d.name = Text.lowerString name
  method : d.method = method
  sorted : d.options.Sorted
  /-- The last value of an option goes before the first one to stand in. -/
  get? : ∀ key, Entries.get? key d.options
    = (lastValue? key declarations).or (declarations.filterMap (standIn? key)).head?
  params : d.params = declarations.filterMap param?
  decorators : d.decorators = declarations.filterMap decorator?
  defaultOutput : d.defaultOutput = (declarations.filterMap defaultOutput?).getLast?
  skipsAutodetect : d.skipsAutodetect = false

theorem collects_start (name : String) (method : Rest δ) :
    Collects name method [] (start name method) :=
  ⟨rfl, rfl, List.Pairwise.nil, fun _ => rfl, rfl, rfl, rfl, rfl⟩

theorem filterMap_concat {α β : Type} (f : α → Option β) (xs : List α) (x : α) :
    (xs ++ [x]).filterMap f = xs.filterMap f ++ (f x).toList := by
  rw [List.filterMap_append]
  cases h : f x with
  | none => rw [List.filterMap_cons_none h]; rfl
  | some b => rw [List.filterMap_cons_some h]; rfl

theorem getLast?_filterMap_concat {α β : Type} (f : α → Option β) (xs : List α) (x : α) :
    ((xs ++ [x]).filterMap f).getLast? = (f x).or (xs.filterMap f).getLast? := by
  rw [filterMap_concat, List.getLast?_append]
  cases f x <;> rfl

theorem head?_filterMap_concat {α β : Type} (f : α → Option β) (xs : List α) (x : α) :
    ((xs ++ [x]).filterMap f).head? = (xs.filterMap f).head?.or (f x) := by
  rw [filterMap_concat, List.head?_append]
  cases f x <;> rfl

/-- **Every declaration keeps what is held of those before it.** -/
theorem Collects.declare (h : Collects name method declarations d) (x : Declaration) :
    Collects name method (declarations ++ [x]) (d.declare x) where
  name := (d.declare_name x).trans h.name
  method := (d.declare_method x).trans h.method
  sorted := sorted_declare h.sorted x
  get? := by
    intro key
    rw [get?_declare, h.get? key, lastValue?, lastValue?, getLast?_filterMap_concat,
      head?_filterMap_concat, Option.or_assoc, Option.or_assoc]
  params := by rw [declare_params, h.params, filterMap_concat]
  decorators := by rw [declare_decorators, h.decorators, filterMap_concat]
  defaultOutput := by rw [declare_defaultOutput, h.defaultOutput, getLast?_filterMap_concat]
  skipsAutodetect := (d.declare_skipsAutodetect x).trans h.skipsAutodetect

theorem collects_declarations (name : String) (method : Rest δ)
    (declarations : List Declaration) :
    Collects name method declarations (declarations.foldl declare (start name method)) := by
  induction declarations using List.reverseRecOn with
  | nil => exact collects_start name method
  | append_singleton declarations x ih =>
    rw [List.foldl_append]
    exact ih.declare x

/-- What is held of the declarations is all there is. -/
theorem Collects.eq {declarations' : List Declaration} {d' : Descriptor δ}
    (h : Collects name method declarations d) (h' : Collects name method declarations' d')
    (hvalues : ∀ key, declarations.filterMap (value? key) = declarations'.filterMap (value? key))
    (hstandIns : ∀ key,
      declarations.filterMap (standIn? key) = declarations'.filterMap (standIn? key))
    (hparams : declarations.filterMap param? = declarations'.filterMap param?)
    (hdecorators : declarations.filterMap decorator? = declarations'.filterMap decorator?)
    (houtputs : declarations.filterMap defaultOutput? = declarations'.filterMap defaultOutput?) :
    d = d' := by
  have hoptions : d.options = d'.options := by
    refine h.sorted.ext h'.sorted fun key => ?_
    rw [h.get? key, h'.get? key, lastValue?, lastValue?, hvalues, hstandIns]
  have hname : d.name = d'.name := h.name.trans h'.name.symm
  have hmethod : d.method = d'.method := h.method.trans h'.method.symm
  have hparams' : d.params = d'.params := by rw [h.params, h'.params, hparams]
  have hdecorators' : d.decorators = d'.decorators := by
    rw [h.decorators, h'.decorators, hdecorators]
  have houtput : d.defaultOutput = d'.defaultOutput := by
    rw [h.defaultOutput, h'.defaultOutput, houtputs]
  have hskips : d.skipsAutodetect = d'.skipsAutodetect :=
    h.skipsAutodetect.trans h'.skipsAutodetect.symm
  cases d
  cases d'
  simp_all only

/-! ## Finished descriptors -/

theorem get?_finish (d : Descriptor δ) (key : String) :
    Entries.get? key d.finish.options
      = if skipAutodetectOption = key then none else Entries.get? key d.options := by
  unfold finish
  split
  · next hnone =>
    split
    · next hkey => rw [← hkey, hnone]
    · rfl
  · exact Entries.get?_erase d.options skipAutodetectOption key

theorem sorted_finish (h : d.options.Sorted) : d.finish.options.Sorted := by
  unfold finish
  split
  · exact h
  · exact List.Pairwise.filter _ h

theorem finish_skipsAutodetect (h : d.skipsAutodetect = false) :
    d.finish.skipsAutodetect = true
      ↔ Entries.get? skipAutodetectOption d.options = some (.bool true) := by
  unfold finish
  split
  · next hnone => simp [h, hnone]
  · next value hvalue =>
    rw [hvalue]
    cases value with
    | bool b => cases b <;> simp [Json.asBool?]
    | _ => simp [Json.asBool?]

theorem finish_rest (d : Descriptor δ) :
    d.finish.name = d.name ∧ d.finish.params = d.params ∧ d.finish.decorators = d.decorators
      ∧ d.finish.defaultOutput = d.defaultOutput := by
  unfold finish
  split <;> exact ⟨rfl, rfl, rfl, rfl⟩

/-- Nothing stands in for an option but a help text, and that only for its own. -/
theorem standIns_eq_nil {key : String} (h : helpOption ≠ key) (declarations : List Declaration) :
    declarations.filterMap (standIn? key) = [] :=
  List.filterMap_eq_nil_iff.2 fun _ _ => if_neg h

theorem head?_standIns (declarations : List Declaration) :
    (declarations.filterMap (standIn? helpOption)).head?
      = (firstAbout? declarations).map .string := by
  have hmap : standIn? helpOption = fun x => x.about?.map Json.string :=
    funext fun _ => if_pos rfl
  rw [hmap, firstAbout?, ← List.head?_map, List.map_filterMap]

/-- A declaration that sets no option may be moved past those of all other kinds. -/
theorem build_move (name : String) (method : Rest δ) {x : Declaration}
    (hoption : x.kind ≠ .option) (hskip : x.kind ≠ .skipAutodetect) {middle : List Declaration}
    (h : ∀ y ∈ middle, y.kind ≠ x.kind) (front back : List Declaration) :
    build name method (front ++ x :: (middle ++ back))
      = build name method (front ++ (middle ++ x :: back)) := by
  refine congrArg finish ((collects_declarations name method _).eq
    (collects_declarations name method _) ?_ ?_ ?_ ?_ ?_)
  · intro key
    -- it sets no option, so it does not matter what the others set
    simp only [List.filterMap_append, List.filterMap_cons, value?_eq_none hoption hskip]
  · exact fun key => filterMap_move (fun _ hy => standIn?_eq_none hy key) h front back
  · exact filterMap_move (fun _ => param?_eq_none) h front back
  · exact filterMap_move (fun _ => decorator?_eq_none) h front back
  · exact filterMap_move (fun _ => defaultOutput?_eq_none) h front back

/--
**What a descriptor is built of.**

Whatever the declarations are, and in whatever order: the option that disables autodetection is not
among the options, and autodetection is disabled exactly if the last value that this option was set
to is true. The help text is that of the last value of its option, if there was one, and none if
this is no text; else it is the first help text that was given. Every other option has its last
value. Parameters and decorators are in the order of their declarations, and the output strategy is
the last one. Moving a declaration that sets no option past those of other kinds makes no difference
to anything.
-/
theorem build_parts (name : String) (method : Rest δ) (declarations : List Declaration) :
    let d := build name method declarations
    d.name = Text.lowerString name ∧ d.method = method ∧ d.options.Sorted
      ∧ Entries.get? skipAutodetectOption d.options = none
      ∧ (d.skipsAutodetect = true
        ↔ lastValue? skipAutodetectOption declarations = some (.bool true))
      ∧ d.help = (match lastValue? helpOption declarations with
        | some value => value.asString?
        | none => firstAbout? declarations)
      ∧ (∀ key, key ≠ helpOption → key ≠ skipAutodetectOption →
        Entries.get? key d.options = lastValue? key declarations)
      ∧ d.params = declarations.filterMap param?
      ∧ d.decorators = declarations.filterMap decorator?
      ∧ d.defaultOutput = (declarations.filterMap defaultOutput?).getLast?
      ∧ ∀ front x middle back, declarations = front ++ x :: (middle ++ back) →
        x.kind ≠ .option → x.kind ≠ .skipAutodetect → (∀ y ∈ middle, y.kind ≠ x.kind) →
        build name method (front ++ (middle ++ x :: back)) = d := by
  intro d
  have h := collects_declarations name method declarations
  obtain ⟨hname, hparams, hdecorators, houtput⟩ :=
    finish_rest (declarations.foldl declare (start name method))
  refine ⟨hname.trans h.name, build_method name method declarations, sorted_finish h.sorted, ?_, ?_,
    ?_, ?_, hparams.trans h.params, hdecorators.trans h.decorators,
    houtput.trans h.defaultOutput, ?_⟩
  · exact (get?_finish _ _).trans (if_pos rfl)
  · refine (finish_skipsAutodetect h.skipsAutodetect).trans ?_
    have hkey : helpOption ≠ skipAutodetectOption := by decide
    rw [h.get?, standIns_eq_nil hkey, List.head?_nil, Option.or_none]
  · have hkey : skipAutodetectOption ≠ helpOption := by decide
    have hget := (get?_finish (declarations.foldl declare (start name method)) helpOption).trans
      (if_neg hkey)
    rw [h.get?, head?_standIns] at hget
    refine (congrArg (Option.bind · Json.asString?) hget).trans ?_
    cases lastValue? helpOption declarations with
    | some value => rfl
    | none => cases firstAbout? declarations <;> rfl
  · intro key hhelp hskip
    refine (get?_finish _ _).trans ?_
    rw [if_neg (Ne.symm hskip), h.get?, standIns_eq_nil (Ne.symm hhelp), List.head?_nil,
      Option.or_none]
  · rintro front x middle back rfl hoption hskip hmiddle
    exact (build_move name method hoption hskip hmiddle front back).symm

/-- A help text gives way to the option, before it and behind it. -/
theorem build_parts_toggle :
    let method : Rest Unit := fun arguments device => .ended device arguments (.ok .unit)
    let explicit := Declaration.option helpOption (.string "explicit")
    let declarations := [.about "brief", explicit, .skipAutodetect, .param (.flag "dry_run")]
    let d := build "Toggle" method declarations
    d.help = some "explicit" ∧ d.skipsAutodetect = true ∧ d.params = [.flag "dry_run"]
      ∧ build "Toggle" method
        [explicit, .skipAutodetect, .about "brief", .param (.flag "dry_run")] = d := by
  intro method explicit declarations d
  obtain ⟨-, -, -, -, hskips, hhelp, -, hparams, -, -, hmove⟩ :=
    build_parts "Toggle" method declarations
  refine ⟨hhelp, hskips.2 rfl, hparams, ?_⟩
  have hmiddle : ∀ y ∈ [explicit, .skipAutodetect], y.kind ≠ (about "brief").kind := by
    simp [explicit, kind]
  exact hmove [] (.about "brief") [explicit, .skipAutodetect] [.param (.flag "dry_run")] rfl
    (by decide) (by decide) hmiddle

end Descriptor

end Switchboard

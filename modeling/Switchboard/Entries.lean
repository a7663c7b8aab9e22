/-!
# Entries in key order

Values under names, as a list that is strictly increasing in the name. The order is that of the
names' code points. Keyword arguments, the members of a JSON object and registration options are
such lists; that two of them with the same content are equal is what the order is for.

`get?_insert` says what writing does to every name, `Sorted.insert` that it keeps the order, and
`Sorted.ext` that entries in order are known by what is under each name.
-/

namespace Switchboard

/-- Values under names. -/
abbrev Entries (α : Type) := List (String × α)

namespace Entries

variable {α : Type}

/-- Strictly increasing in the name. -/
def Sorted (es : Entries α) : Prop := es.Pairwise fun a b => a.1 < b.1

/-- The value under a name. -/
def get? (name : String) : Entries α → Option α
  | [] => none
  | (key, value) :: es => if key = name then some value else get? name es

/-- Writes a value under a name, in its place in the order; a value already there is replaced. -/
def insert (name : String) (value : α) : Entries α → Entries α
  | [] => [(name, value)]
  | (key, old) :: es =>
    if name < key then (name, value) :: (key, old) :: es
    else if name = key then (name, value) :: es
    else (key, old) :: insert name value es

/-- Removes a name. -/
def erase (name : String) (es : Entries α) : Entries α := es.filter fun e => e.1 ≠ name

/-- The names, in order. -/
def names (es : Entries α) : List String := es.map (·.1)

/-- Entries in any order put in order; of two under one name the later stays. -/
def ofList (es : List (String × α)) : Entries α :=
  es.foldl (fun sorted e => insert e.1 e.2 sorted) []

theorem get?_insert (es : Entries α) (name other : String) (value : α) :
    get? other (insert name value es) = if name = other then some value else get? other es := by
  induction es with
  | nil => rfl
  | cons e es ih =>
    obtain ⟨key, old⟩ := e
    grind [insert, get?]

theorem get?_erase (es : Entries α) (name other : String) :
    get? other (erase name es) = if name = other then none else get? other es := by
  induction es with
  | nil => simp [erase, get?]
  | cons e es ih =>
    obtain ⟨key, old⟩ := e
    grind [erase, get?]

theorem mem_insert {es : Entries α} {name : String} {value : α} {e : String × α}
    (h : e ∈ insert name value es) : e = (name, value) ∨ e ∈ es := by
  induction es with
  | nil => simpa [insert] using h
  | cons e' es ih => grind [insert]

theorem Sorted.insert {es : Entries α} (h : es.Sorted) (name : String) (value : α) :
    (Entries.insert name value es).Sorted := by
  induction es with
  | nil => simp [Entries.insert, Sorted]
  | cons e es ih =>
    obtain ⟨key, old⟩ := e
    obtain ⟨hhead, htail⟩ := List.pairwise_cons.1 h
    simp only [Entries.insert]
    split
    · next hlt =>
      refine List.pairwise_cons.2 ⟨fun e he => ?_, h⟩
      rcases List.mem_cons.1 he with rfl | he
      · exact hlt
      · exact String.lt_trans hlt (hhead e he)
    · next hnlt =>
      split
      · next heq =>
        subst heq
        exact List.pairwise_cons.2 ⟨hhead, htail⟩
      · next hne =>
        refine List.pairwise_cons.2 ⟨fun e he => ?_, ih htail⟩
        rcases mem_insert he with rfl | he
        · exact Std.lt_of_le_of_ne (String.not_lt.1 hnlt) (Ne.symm hne)
        · exact hhead e he

/-- Values that are changed and written one after the other keep the order. -/
theorem Sorted.foldl_insert {β : Type} {es : Entries α} (h : es.Sorted) (f : β → α)
    (order : Entries β) :
    Sorted (order.foldl (fun es e => Entries.insert e.1 (f e.2) es) es) := by
  induction order generalizing es with
  | nil => exact h
  | cons e order ih => exact ih (h.insert e.1 (f e.2))

theorem mem_foldl_insert {β : Type} {f : β → α} {order : Entries β} {es : Entries α}
    {e : String × α} (h : e ∈ order.foldl (fun es e => Entries.insert e.1 (f e.2) es) es) :
    e ∈ es ∨ ∃ e' ∈ order, e = (e'.1, f e'.2) := by
  induction order generalizing es with
  | nil => exact Or.inl h
  | cons e' order ih =>
    rcases ih h with hmem | ⟨e'', hmem, heq⟩
    · rcases mem_insert hmem with heq | hmem
      · exact Or.inr ⟨e', List.mem_cons_self, heq⟩
      · exact Or.inl hmem
    · exact Or.inr ⟨e'', List.mem_cons_of_mem e' hmem, heq⟩

theorem sorted_ofList (es : List (String × α)) : (ofList es).Sorted :=
  Sorted.foldl_insert List.Pairwise.nil id es

theorem insert_perm {es : Entries α} {name : String} (h : name ∉ names es) (value : α) :
    (Entries.insert name value es).Perm ((name, value) :: es) := by
  induction es with
  | nil => exact .refl _
  | cons e es ih =>
    obtain ⟨key, old⟩ := e
    rw [names, List.map_cons, List.mem_cons, not_or] at h
    rw [Entries.insert]
    split
    · exact .refl _
    · rw [if_neg h.1]
      exact ((ih h.2).cons _).trans (.swap _ _ _)

/-- Putting entries in order keeps all of them if no two have the same name. -/
theorem ofList_perm {es : List (String × α)} (h : (names es).Nodup) : (ofList es).Perm es := by
  suffices h : ∀ (es : List (String × α)) (acc : Entries α), (names (es ++ acc)).Nodup →
      (es.foldl (fun sorted e => Entries.insert e.1 e.2 sorted) acc).Perm (es ++ acc) by
    have hperm := h es []
    rw [List.append_nil] at hperm
    exact hperm ‹_›
  intro es
  induction es with
  | nil => exact fun acc _ => .refl acc
  | cons e es ih =>
    intro acc hnodup
    have hfront : (es ++ e :: acc).Perm (e :: es ++ acc) := List.perm_middle
    have hname : e.1 ∉ names acc := by
      rw [names, ← (hfront.map _).nodup_iff, List.map_append, List.map_cons] at hnodup
      exact (List.nodup_cons.1 (List.nodup_append.1 hnodup).2.1).1
    have hinsert : (es ++ Entries.insert e.1 e.2 acc).Perm (e :: es ++ acc) :=
      ((insert_perm hname e.2).append_left es).trans hfront
    exact (ih _ ((hinsert.map _).nodup_iff.2 hnodup)).trans hinsert

theorem Sorted.nodup {es : Entries α} (h : es.Sorted) : (names es).Nodup := by
  refine List.pairwise_map.2 (h.imp ?_)
  intro a b hlt heq
  rw [heq] at hlt
  exact String.lt_irrefl _ hlt

/-- **Entries in order are what they are put in order to**, wherever they were before. -/
theorem ofList_eq_of_perm {es : List (String × α)} {fs : Entries α} (h : es.Perm fs)
    (hsorted : fs.Sorted) : ofList es = fs := by
  have hnodup : (names es).Nodup := (h.map _).nodup_iff.2 hsorted.nodup
  refine List.Perm.eq_of_pairwise ?_ (sorted_ofList es) hsorted ((ofList_perm hnodup).trans h)
  intro a b _ _ hab hba
  exact absurd (String.lt_trans hab hba) (String.lt_irrefl _)

/-! ## What is under a name -/

theorem get?_isSome_iff {es : Entries α} {name : String} :
    (get? name es).isSome = true ↔ name ∈ names es := by
  induction es with
  | nil => exact iff_of_false Bool.false_ne_true List.not_mem_nil
  | cons e es ih =>
    obtain ⟨key, value⟩ := e
    rw [get?, names, List.map_cons, List.mem_cons, ← names, ← ih]
    split
    · next heq => exact iff_of_true rfl (Or.inl heq.symm)
    · next hne => exact (or_iff_right fun heq => hne heq.symm).symm

theorem mem_of_get? {es : Entries α} {name : String} {value : α}
    (h : get? name es = some value) : (name, value) ∈ es := by
  induction es with
  | nil => cases h
  | cons e es ih =>
    obtain ⟨key, old⟩ := e
    rw [get?] at h
    split at h
    · next heq =>
      rw [heq, Option.some.inj h]
      exact List.mem_cons_self
    · exact List.mem_cons_of_mem _ (ih h)

theorem get?_eq_some_iff {es : Entries α} (hnodup : (names es).Nodup) {name : String}
    {value : α} : get? name es = some value ↔ (name, value) ∈ es := by
  refine ⟨mem_of_get?, fun hmem => ?_⟩
  induction es with
  | nil => exact absurd hmem List.not_mem_nil
  | cons e es ih =>
    obtain ⟨key, old⟩ := e
    obtain ⟨hkey, hrest⟩ := List.nodup_cons.1 hnodup
    rw [get?]
    rcases List.mem_cons.1 hmem with heq | hmem
    · obtain ⟨rfl, rfl⟩ := Prod.mk.inj heq
      exact if_pos rfl
    · have hne : key ≠ name := by
        rintro rfl
        exact hkey (List.mem_map.2 ⟨_, hmem, rfl⟩)
      rw [if_neg hne, ih hrest hmem]

/-- The order in which entries stand makes no difference to what is under a name. -/
theorem get?_perm {es fs : Entries α} (h : es.Perm fs) (hnodup : (names es).Nodup)
    (name : String) : get? name es = get? name fs := by
  have hnodup' : (names fs).Nodup := (h.map _).nodup_iff.1 hnodup
  refine Option.ext fun value => ?_
  rw [get?_eq_some_iff hnodup, get?_eq_some_iff hnodup', h.mem_iff]

/-- **Entries in order are what they are under each name.** -/
theorem Sorted.ext {es fs : Entries α} (hes : es.Sorted) (hfs : fs.Sorted)
    (h : ∀ name, get? name es = get? name fs) : es = fs := by
  have nodup_of : ∀ {es : Entries α}, es.Sorted → List.Nodup es := fun hsorted =>
    (List.pairwise_map.1 hsorted.nodup).imp fun hne heq => hne (congrArg Prod.fst heq)
  have hperm : es.Perm fs := by
    refine (List.perm_ext_iff_of_nodup (nodup_of hes) (nodup_of hfs)).2 fun e => ?_
    rw [← get?_eq_some_iff hes.nodup, ← get?_eq_some_iff hfs.nodup, h]
  refine List.Perm.eq_of_pairwise ?_ hes hfs hperm
  intro a b _ _ hab hba
  exact absurd (String.lt_trans hab hba) (String.lt_irrefl _)

/-- Of values that are changed and written one after the other, each under a name of its own, the
one under a name is there afterwards. -/
theorem get?_foldl_insert {β : Type} (f : β → α) {order : Entries β}
    (hnodup : (names order).Nodup) (es : Entries α) (name : String) :
    get? name (order.foldl (fun es e => insert e.1 (f e.2) es) es)
      = ((get? name order).map f).or (get? name es) := by
  induction order generalizing es with
  | nil => rfl
  | cons e order ih =>
    obtain ⟨key, value⟩ := e
    obtain ⟨hkey, hrest⟩ := List.nodup_cons.1 hnodup
    rw [List.foldl_cons, ih hrest, get?_insert, get?]
    split
    · next heq =>
      -- nothing that is written later has this name
      have hnone : get? name order = none := by
        rw [← Option.not_isSome_iff_eq_none, get?_isSome_iff, ← heq]
        exact hkey
      rw [hnone]
      rfl
    · rfl

theorem mem_names_insert {es : Entries α} {name other : String} {value : α} :
    other ∈ names (insert name value es) ↔ other = name ∨ other ∈ names es := by
  rw [← get?_isSome_iff, ← get?_isSome_iff, get?_insert]
  split
  · next heq => exact iff_of_true rfl (Or.inl heq.symm)
  · next hne => exact (or_iff_right fun heq => hne heq.symm).symm

/-- Putting entries in order loses no name. -/
theorem mem_names_ofList {es : List (String × α)} {name : String} :
    name ∈ names (ofList es) ↔ name ∈ es.map (·.1) := by
  suffices h : ∀ sorted : Entries α,
      name ∈ names (es.foldl (fun sorted e => insert e.1 e.2 sorted) sorted)
        ↔ name ∈ es.map (·.1) ∨ name ∈ names sorted by
    have hempty : name ∉ names ([] : Entries α) := List.not_mem_nil
    exact (h []).trans (or_iff_left hempty)
  induction es with
  | nil =>
    intro sorted
    exact (or_iff_right List.not_mem_nil).symm
  | cons e es ih =>
    intro sorted
    rw [List.foldl_cons, ih, mem_names_insert, List.map_cons, List.mem_cons]
    exact or_left_comm.trans or_assoc.symm

end Entries

end Switchboard

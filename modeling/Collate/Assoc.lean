namespace Collate.Assoc

variable {Index Value : Type} [DecidableEq Index]

def get? (index : Index) : List (Index × Value) → Option Value
  | [] => none
  | (other, value) :: rest =>
      if other = index then some value else get? index rest

def put (index : Index) (value : Value) :
    List (Index × Value) → List (Index × Value)
  | [] => [(index, value)]
  | (other, held) :: rest =>
      if other = index then (index, value) :: rest
        else (other, held) :: put index value rest

def erase (index : Index) (entries : List (Index × Value)) :
    List (Index × Value) :=
  entries.filter fun entry => entry.1 ≠ index

def adjust (index : Index) (change : Value → Value)
    (entries : List (Index × Value)) : List (Index × Value) :=
  match get? index entries with
  | some value => put index (change value) entries
  | none => entries

@[simp] theorem get?_nil (index : Index) :
    get? index ([] : List (Index × Value)) = none := rfl

@[simp] theorem get?_put_self (index : Index) (value : Value)
    (entries : List (Index × Value)) :
    get? index (put index value entries) = some value := by
  induction entries with
  | nil => simp [put, get?]
  | cons entry rest induction =>
      obtain ⟨other, held⟩ := entry
      by_cases same : other = index
      · simp [put, get?, same]
      · simp [put, get?, same, induction]

theorem get?_put_of_ne {index other : Index} (different : other ≠ index)
    (value : Value) (entries : List (Index × Value)) :
    get? other (put index value entries) = get? other entries := by
  induction entries with
  | nil => simp [put, get?, Ne.symm different]
  | cons entry rest induction =>
      obtain ⟨name, held⟩ := entry
      by_cases same : name = index
      · subst same
        simp [put, get?, Ne.symm different]
      · by_cases found : name = other
        · subst found
          simp [put, get?, same]
        · simp [put, get?, same, found, induction]

@[simp] theorem get?_erase_self (index : Index)
    (entries : List (Index × Value)) :
    get? index (erase index entries) = none := by
  induction entries with
  | nil => rfl
  | cons entry rest induction =>
      obtain ⟨name, held⟩ := entry
      by_cases same : name = index
      · simpa [erase, same] using induction
      · simpa [erase, get?, same] using induction

theorem get?_erase_of_ne {index other : Index} (different : other ≠ index)
    (entries : List (Index × Value)) :
    get? other (erase index entries) = get? other entries := by
  induction entries with
  | nil => rfl
  | cons entry rest induction =>
      obtain ⟨name, held⟩ := entry
      by_cases same : name = index
      · subst same
        simpa [erase, get?, Ne.symm different] using induction
      · by_cases found : name = other
        · simp [erase, get?, found, different]
        · simpa [erase, get?, same, found] using induction

theorem mem_of_get? {index : Index} {value : Value}
    {entries : List (Index × Value)} (found : get? index entries = some value) :
    (index, value) ∈ entries := by
  induction entries with
  | nil => simp at found
  | cons entry rest induction =>
      obtain ⟨other, held⟩ := entry
      by_cases same : other = index
      · have equality : held = value := by simpa [get?, same] using found
        simp [same, equality]
      · have later : get? index rest = some value := by
          simpa [get?, same] using found
        exact List.mem_cons_of_mem _ (induction later)

theorem get?_append (index : Index) (first second : List (Index × Value)) :
    get? index (first ++ second) =
      (get? index first).or (get? index second) := by
  induction first with
  | nil => rfl
  | cons entry rest induction =>
      obtain ⟨other, held⟩ := entry
      by_cases same : other = index
      · simp [get?, same]
      · simpa [get?, same] using induction

theorem get?_eq_none_iff {index : Index} {entries : List (Index × Value)} :
    get? index entries = none ↔ index ∉ entries.map Prod.fst := by
  induction entries with
  | nil => simp
  | cons entry rest induction =>
      obtain ⟨other, held⟩ := entry
      by_cases same : other = index
      · simp [get?, same]
      · simpa [get?, same, Ne.symm same] using induction

theorem not_mem_keys_erase (index : Index) (entries : List (Index × Value)) :
    index ∉ (erase index entries).map Prod.fst :=
  get?_eq_none_iff.mp (get?_erase_self index entries)

theorem erase_of_not_mem {index : Index} {entries : List (Index × Value)}
    (absent : index ∉ entries.map Prod.fst) :
    erase index entries = entries := by
  apply List.filter_eq_self.mpr
  intro entry member
  apply decide_eq_true
  intro same
  exact absent (same ▸ List.mem_map_of_mem member)

theorem perm_cons_erase {index : Index} {value : Value}
    {entries : List (Index × Value)} (distinct : (entries.map Prod.fst).Nodup)
    (found : get? index entries = some value) :
    entries.Perm ((index, value) :: erase index entries) := by
  induction entries with
  | nil => simp at found
  | cons entry rest induction =>
      obtain ⟨other, held⟩ := entry
      obtain ⟨absent, restDistinct⟩ := List.nodup_cons.mp distinct
      by_cases same : other = index
      · subst same
        obtain rfl : held = value := by simpa [get?] using found
        have unchanged : erase other ((other, held) :: rest) = rest := by
          simpa [erase] using erase_of_not_mem absent
        rw [unchanged]
      · have later := induction restDistinct (by simpa [get?, same] using found)
        have kept : erase index ((other, held) :: rest) =
              (other, held) :: erase index rest := by
          simp [erase, same]
        rw [kept]
        exact (later.cons _).trans (List.Perm.swap _ _ _)

theorem put_perm {entries : List (Index × Value)}
    (distinct : (entries.map Prod.fst).Nodup) (index : Index) (value : Value) :
    (put index value entries).Perm ((index, value) :: erase index entries) := by
  induction entries with
  | nil => simp [put, erase]
  | cons entry rest induction =>
      obtain ⟨other, held⟩ := entry
      obtain ⟨absent, restDistinct⟩ := List.nodup_cons.mp distinct
      by_cases same : other = index
      · subst same
        have unchanged : erase other ((other, held) :: rest) = rest := by
          simpa [erase] using erase_of_not_mem absent
        rw [unchanged]
        simp [put]
      · have kept : erase index ((other, held) :: rest) =
              (other, held) :: erase index rest := by
          simp [erase, same]
        rw [kept, put, if_neg same]
        exact ((induction restDistinct).cons _).trans (List.Perm.swap _ _ _)

theorem nodup_keys_erase {entries : List (Index × Value)}
    (distinct : (entries.map Prod.fst).Nodup) (index : Index) :
    ((erase index entries).map Prod.fst).Nodup :=
  distinct.sublist (List.filter_sublist.map _)

theorem nodup_keys_put {entries : List (Index × Value)}
    (distinct : (entries.map Prod.fst).Nodup) (index : Index) (value : Value) :
    ((put index value entries).map Prod.fst).Nodup := by
  have keys := (put_perm distinct index value).map Prod.fst
  apply keys.nodup_iff.mpr
  exact List.nodup_cons.mpr ⟨not_mem_keys_erase index entries,
    nodup_keys_erase distinct index⟩

/-- Sets the value under a text, at the place that keeps the texts in order. -/
def insert (name : String) (value : Value) :
    List (String × Value) → List (String × Value)
  | [] => [(name, value)]
  | (other, held) :: rest =>
      if other = name then (name, value) :: rest
      else if name < other then (name, value) :: (other, held) :: rest
      else (other, held) :: insert name value rest

/-- Entries in order of their names, where a later entry replaces an earlier one
of its name. -/
def ofEntries (entries : List (String × Value)) : List (String × Value) :=
  entries.foldl (fun ordered entry => insert entry.1 entry.2 ordered) []

@[simp] theorem get?_insert_self (name : String) (value : Value)
    (entries : List (String × Value)) :
    get? name (insert name value entries) = some value := by
  induction entries with
  | nil => simp [insert, get?]
  | cons entry rest induction =>
      obtain ⟨other, held⟩ := entry
      by_cases same : other = name
      · simp [insert, get?, same]
      · by_cases before : name < other
        · simp [insert, get?, same, before]
        · simp [insert, get?, same, before, induction]

theorem get?_insert_of_ne {name other : String} (different : other ≠ name)
    (value : Value) (entries : List (String × Value)) :
    get? other (insert name value entries) = get? other entries := by
  induction entries with
  | nil => simp [insert, get?, Ne.symm different]
  | cons entry rest induction =>
      obtain ⟨index, held⟩ := entry
      by_cases same : index = name
      · subst same
        simp [insert, get?, Ne.symm different]
      · by_cases before : name < index
        · simp [insert, get?, same, before, Ne.symm different]
        · by_cases found : index = other
          · subst found
            simp [insert, get?, same, before]
          · simp [insert, get?, same, before, found, induction]

theorem mem_keys_insert {name other : String} {value : Value}
    {entries : List (String × Value)} :
    other ∈ (insert name value entries).map Prod.fst ↔
      other = name ∨ other ∈ entries.map Prod.fst := by
  have present : ∀ entries : List (String × Value),
      other ∈ entries.map Prod.fst ↔ get? other entries ≠ none := by
    intro entries
    rw [ne_eq, get?_eq_none_iff, Decidable.not_not]
  rw [present, present]
  by_cases same : other = name
  · simp [same]
  · rw [get?_insert_of_ne same]
    simp [same]

theorem ordered_insert {entries : List (String × Value)}
    (ordered : (entries.map Prod.fst).Pairwise (· < ·)) (name : String)
    (value : Value) :
    ((insert name value entries).map Prod.fst).Pairwise (· < ·) := by
  induction entries with
  | nil => exact List.pairwise_singleton _ _
  | cons entry rest induction =>
      obtain ⟨other, held⟩ := entry
      obtain ⟨least, restOrdered⟩ := List.pairwise_cons.mp ordered
      simp only [insert]
      split
      · rename_i same
        subst same
        exact ordered
      · rename_i different
        split
        · rename_i before
          refine List.pairwise_cons.mpr ⟨fun later member => ?_, ordered⟩
          rcases List.mem_cons.mp member with rfl | inRest
          · exact before
          · exact String.lt_trans before (least later inRest)
        · rename_i notBefore
          have before : other < name := by
            apply Decidable.byContradiction
            intro notLess
            exact different (String.le_antisymm (String.not_lt.mp notBefore)
              (String.not_lt.mp notLess))
          refine List.pairwise_cons.mpr ⟨fun later member => ?_,
            induction restOrdered⟩
          rcases mem_keys_insert.mp member with rfl | inRest
          · exact before
          · exact least later inRest

theorem get?_filter {entries : List (String × Value)}
    (ordered : (entries.map Prod.fst).Pairwise (· < ·))
    (keeps : String × Value → Bool) (name : String) :
    get? name (entries.filter keeps) =
      (get? name entries).filter fun value => keeps (name, value) := by
  induction entries with
  | nil => rfl
  | cons entry rest induction =>
      obtain ⟨other, held⟩ := entry
      obtain ⟨least, restOrdered⟩ := List.pairwise_cons.mp ordered
      have later := induction restOrdered
      by_cases same : other = name
      · subst same
        have absent : get? other rest = none :=
          get?_eq_none_iff.mpr fun member =>
            String.lt_irrefl other (least other member)
        by_cases kept : keeps (other, held)
        · simp [get?, kept, Option.filter]
        · simp [get?, kept, later, absent, Option.filter]
      · by_cases kept : keeps (other, held)
        · simp [get?, kept, same, later]
        · simp [get?, kept, same, later]

end Collate.Assoc
